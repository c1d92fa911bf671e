import ClassRename.Pool.Resolve

namespace ClassRename

structure Attribute where
  name : UInt16
  data : Bytes
deriving Repr, DecidableEq

namespace Attribute

def toBytes (entry : Attribute) : Bytes :=
  Bytes.u16 entry.name ++ Bytes.ofNat 4 entry.data.length ++ entry.data

def listToBytes (entries : List Attribute) : Bytes :=
  Bytes.count entries ++ entries.flatMap toBytes

def read : Scan Attribute := do
  let name ← Scan.u16
  return ⟨name, ← Scan.bytes (← Scan.u32).toNat⟩

def readList : Scan (List Attribute) := Scan.counted read

end Attribute
end ClassRename
