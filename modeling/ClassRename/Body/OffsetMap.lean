import ClassRename.Body.Offsets
import ClassRename.Error

namespace ClassRename

structure OffsetMap where
  old : Offsets
  new : Offsets
deriving DecidableEq

namespace OffsetMap

def pair (old new : Offsets) : Except Error OffsetMap :=
  if old.size = new.size then .ok ⟨old, new⟩
  else .error (.relayout (.countChanged (old.size - 1) (new.size - 1)))

def isIdentity (map : OffsetMap) : Bool := map.old = map.new

def translate (map : OffsetMap) (offset : UInt16) : Except Error UInt16 :=
  match map.old.position? offset.toNat with
  | some position => .ok (UInt16.ofNat (map.new.getD position 0))
  | none => .error (.malformed (.notABoundary offset))

end OffsetMap
end ClassRename
