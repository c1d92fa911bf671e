import ClassRename.Pool.Resolve

namespace ClassRename

abbrev Interning := EStateM Error Pool

namespace Pool

def intern (constant : Constant) : Interning UInt16 := fun pool =>
  match pool.first[constant]? with
  | some index => .ok index pool
  | none =>
    if pool.size + constant.slots.length ≤ capacity then
      let index := UInt16.ofNat pool.size
      .ok index (pool.append constant)
    else .error .poolFull pool

def internText (text : String) : Interning UInt16 :=
  let stored := EncodedText.ofString text
  let size := stored.bytes.length
  if 65535 < size then throw (.malformed (.textTooLong size)) else intern (.utf8 stored)

def internClass (name : String) : Interning UInt16 := do
  intern (.classRef (← internText name))

def internNameAndType (name descriptor : String) : Interning UInt16 := do
  let name ← internText name
  intern (.nameAndType name (← internText descriptor))

def internMember (member : MemberRef) : Interning UInt16 := do
  let owner ← internClass member.owner
  intern (.member member.kind owner (← internNameAndType member.name member.descriptor))

def internLoadable : Loadable → Interning UInt16
  | .integer value => intern (.integer value)
  | .float bits => intern (.float bits)
  | .long value => intern (.long value)
  | .double bits => intern (.double bits)
  | .string text => do intern (.string (← internText text))
  | .type name => internClass name
  | .other index => fun pool =>
    match pool.get index with
    | .ok _ => .ok index pool
    | .error error => .error error pool

-- The index an instruction was read from serves again while it still means the same.
def memberIndex (hint : Option UInt16) (member : MemberRef) : Interning UInt16 := fun pool =>
  match hint.filter (pool.isMember · member) with
  | some index => .ok index pool
  | none => internMember member pool

def loadableIndex (hint : Option UInt16) (value : Loadable) : Interning UInt16 := fun pool =>
  match hint.filter (pool.loads · value) with
  | some index => .ok index pool
  | none => internLoadable value pool

end Pool
end ClassRename
