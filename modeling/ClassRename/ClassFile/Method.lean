import ClassRename.ClassFile.Code

namespace ClassRename

structure Field where
  flags : UInt16
  name : UInt16
  descriptor : UInt16
  attributes : List Attribute
deriving Repr, DecidableEq

namespace Field

def read : Scan Field := do
  return ⟨← Scan.u16, ← Scan.u16, ← Scan.u16, ← Attribute.readList⟩

def toBytes (field : Field) : Bytes :=
  Bytes.u16 field.flags ++ Bytes.u16 field.name ++ Bytes.u16 field.descriptor ++
    Attribute.listToBytes field.attributes

end Field

inductive MethodAttribute where
  | code (body : Code)
  | other (entry : Attribute)
deriving DecidableEq

structure Method where
  flags : UInt16
  name : String
  descriptor : String
  attributes : List MethodAttribute
  nameIndex : Option UInt16
  descriptorIndex : Option UInt16
deriving DecidableEq

namespace MethodAttribute

def ofAttribute (pool : Pool) (entry : Attribute) : Except Error MethodAttribute := do
  if (← pool.encodedText entry.name).text? = some Code.attributeName then
    return .code (← (Code.read entry.name pool).run entry.data)
  else return .other entry

def code? : MethodAttribute → Option Code
  | .code body => some body
  | .other _ => none

def toBytes : MethodAttribute → Writing Bytes
  | .code body => body.toBytes
  | .other entry => pure entry.toBytes

end MethodAttribute

namespace Method

def make (flags : UInt16) (name descriptor : String) (code : Option Code) : Method :=
  ⟨flags, name, descriptor, (code.map MethodAttribute.code).toList, none, none⟩

def read (pool : Pool) : Scan Method := do
  let flags ← Scan.u16
  let name ← Scan.u16
  let descriptor ← Scan.u16
  let attributes ← Attribute.readList
  let attributes ← Scan.lift (attributes.mapM (MethodAttribute.ofAttribute pool))
  let nameText ← Scan.lift (pool.encodedText name)
  let descriptorText ← Scan.lift (pool.encodedText descriptor)
  return ⟨flags, nameText.lossy, descriptorText.lossy, attributes, some name, some descriptor⟩

-- The index a text was read from serves again while its text is the same, readable or not.
def textIndex (hint : Option UInt16) (text : String) : Interning UInt16 := fun pool =>
  match hint.filter fun index =>
      (pool.encodedText index).toOption.map EncodedText.lossy == some text with
  | some index => .ok index pool
  | none => Pool.internText text pool

def toBytes (method : Method) : Writing Bytes := do
  let name ← Writing.intern (textIndex method.nameIndex method.name)
  let descriptor ← Writing.intern (textIndex method.descriptorIndex method.descriptor)
  let attributes ← method.attributes.mapM MethodAttribute.toBytes
  return Bytes.u16 method.flags ++ Bytes.u16 name ++ Bytes.u16 descriptor ++
    Bytes.count attributes ++ attributes.flatten

def code? (method : Method) : Option Code := method.attributes.findSome? MethodAttribute.code?

end Method
end ClassRename
