import ClassRename.Instruction
import ClassRename.Pool.Basic

namespace ClassRename

structure MemberRef where
  kind : MemberKind
  owner : String
  name : String
  descriptor : String
deriving Repr, DecidableEq

def FieldAccess.member (access : FieldAccess) : MemberRef :=
  ⟨.field, access.owner, access.name, access.descriptor⟩

def Invocation.member (call : Invocation) : MemberRef :=
  ⟨if call.isInterface then .interfaceMethod else .method, call.owner, call.name,
    call.descriptor⟩

namespace Pool

private def malformed (flaw : Flaw) : Except Error α := .error (.malformed flaw)

def get (pool : Pool) (index : UInt16) : Except Error Constant :=
  match pool.slots[index.toNat]? with
  | none | some .unusable => malformed (.invalidIndex index pool.size)
  | some constant => .ok constant

def encodedText (pool : Pool) (index : UInt16) : Except Error EncodedText := do
  match ← pool.get index with
  | .utf8 text => .ok text
  | found => malformed (.unexpectedConstant "Utf8" index found)

def text (pool : Pool) (index : UInt16) : Except Error String := do
  match (← pool.encodedText index).text? with
  | some text => .ok text
  | none => malformed (.undecodableText index)

def encodedClassName (pool : Pool) (index : UInt16) : Except Error EncodedText := do
  match ← pool.get index with
  | .classRef name => pool.encodedText name
  | found => malformed (.unexpectedConstant "Class" index found)

def className (pool : Pool) (index : UInt16) : Except Error String := do
  match (← pool.encodedClassName index).text? with
  | some name => .ok name
  | none => malformed (.undecodableClassName index)

def nameAndType (pool : Pool) (index : UInt16) : Except Error (String × String) := do
  match ← pool.get index with
  | .nameAndType name descriptor => do
    let name ← pool.text name
    return (name, ← pool.text descriptor)
  | found => malformed (.unexpectedConstant "NameAndType" index found)

def memberRef (pool : Pool) (index : UInt16) : Except Error MemberRef := do
  match ← pool.get index with
  | .member kind owner signature => do
    let (name, descriptor) ← pool.nameAndType signature
    return ⟨kind, ← pool.className owner, name, descriptor⟩
  | found => malformed (.unexpectedConstant "member reference" index found)

-- What a constant load pushes. A string or class whose text cannot be read stays its index.
def loadable (pool : Pool) (index : UInt16) : Except Error Loadable := do
  match ← pool.get index with
  | .integer value => return .integer value
  | .float bits => return .float bits
  | .long value => return .long value
  | .double bits => return .double bits
  | .string text => return ((← pool.encodedText text).text?.map .string).getD (.other index)
  | .classRef name => return ((← pool.encodedText name).text?.map .type).getD (.other index)
  | .methodHandle .. | .methodType _ | .dynamic .. => return .other index
  | found => malformed (.notLoadable index found)

def isMember (pool : Pool) (index : UInt16) (member : MemberRef) : Bool :=
  match pool.memberRef index with
  | .ok found => found = member
  | .error _ => false

def loads (pool : Pool) (index : UInt16) (value : Loadable) : Bool :=
  match pool.loadable index with
  | .ok found => found = value
  | .error _ => false

def isOpaqueText (pool : Pool) (index : UInt16) : Bool :=
  match pool.slots[index.toNat]? with
  | some (.utf8 text) => text.text?.isNone
  | _ => false

def hasOpaquePart (pool : Pool) (index : UInt16) : Bool :=
  match pool.slots[index.toNat]? with
  | some (.classRef text) | some (.string text) => pool.isOpaqueText text
  | some (.nameAndType name descriptor) =>
    pool.isOpaqueText name || pool.isOpaqueText descriptor
  | _ => false

def reachesOpaqueText (pool : Pool) (index : UInt16) : Bool :=
  match pool.slots[index.toNat]? with
  | some (.member _ owner signature) => pool.hasOpaquePart owner || pool.hasOpaquePart signature
  | _ => pool.isOpaqueText index || pool.hasOpaquePart index

end Pool
end ClassRename
