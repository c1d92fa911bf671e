import ClassRename.Body.Decode
import ClassRename.Pool.Intern

namespace ClassRename

structure EncodedBody where
  code : Bytes
  offsets : Offsets
deriving DecidableEq

namespace Body

inductive Form where
  | fixed (bytes : Bytes)
  | jump (opcode : UInt8) (target : Nat)
  | tableSwitch (default : Nat) (low high : Int32) (targets : List Nat)
  | lookupSwitch (default : Nat) (pairs : List (Int32 × Nat))
deriving Repr, DecidableEq

def loadOpcode (constant : ConstantLoad) (index : UInt16) : UInt8 :=
  if constant.value.isWide then Opcode.ldc2W
  else if constant.opcode = Opcode.ldc ∧ 255 < index then Opcode.ldcW
  else constant.opcode

def loadBytes (constant : ConstantLoad) (index : UInt16) : Bytes :=
  let opcode := loadOpcode constant index
  if opcode = Opcode.ldc then [opcode, index.toUInt8] else opcode :: Bytes.u16 index

def callSuffix (call : Invocation) : Bytes :=
  if call.opcode = Opcode.invokeInterface then
    [call.count.getD (Descriptor.interfaceArgumentCount call.descriptor), 0]
  else []

def resolve : Instruction → Interning Form
  | .field access => do
    let index ← Pool.memberIndex access.index access.member
    return .fixed (access.opcode :: Bytes.u16 index)
  | .method call => do
    let index ← Pool.memberIndex call.index call.member
    return .fixed (call.opcode :: Bytes.u16 index ++ callSuffix call)
  | .load constant => do
    let index ← Pool.loadableIndex constant.index constant.value
    return .fixed (loadBytes constant index)
  | .branch opcode target => return .jump opcode target
  | .tableSwitch default low high targets => return .tableSwitch default low high targets
  | .lookupSwitch default pairs => return .lookupSwitch default pairs
  | .other opcode operands => return .fixed (opcode :: operands)

def Form.size (offset : Nat) : Form → Nat
  | .fixed bytes => bytes.length
  | .jump opcode _ => if Opcode.isWideJump opcode then 5 else 3
  | .tableSwitch _ _ _ targets => 1 + padding (offset + 1) + 12 + 4 * targets.length
  | .lookupSwitch _ pairs => 1 + padding (offset + 1) + 8 + 8 * pairs.length

def maxLength : Nat := 65535

def layoutFrom (offsets : Offsets) (offset : Nat) : List Form → Except Error Offsets
  | [] => .ok (offsets.push offset)
  | form :: rest =>
    let next := offset + form.size offset
    if maxLength < next then .error (.relayout .bodyTooLong)
    else layoutFrom (offsets.push offset) next rest

def layout (forms : List Form) : Except Error Offsets := layoutFrom #[] 0 forms

def fits16 (distance : Int) : Bool := -32768 ≤ distance && distance ≤ 32767

def Form.isNarrowJump : Form → Bool
  | .jump opcode _ => Opcode.isNarrowJump opcode
  | _ => false

def Form.widen (offsets : Offsets) (position : Nat) : Form → Form
  | .jump opcode target =>
    if Opcode.isNarrowJump opcode ∧ ¬ ((offsets.distance? position target).all fits16) then
      .jump (Opcode.wideJump opcode) target
    else .jump opcode target
  | form => form

-- Offsets at which every narrow jump reaches its target. Each round that goes on has fewer
-- narrow jumps than the one before.
def settle (forms : List Form) : Except Error (List Form × Offsets) := do
  let offsets ← layout forms
  let widened := forms.mapIdx (Form.widen offsets)
  if widened.countP Form.isNarrowJump < forms.countP Form.isNarrowJump then settle widened
  else return (forms, offsets)
termination_by forms.countP Form.isNarrowJump

def relative (offsets : Offsets) (position target : Nat) : Except Error Int :=
  match offsets.distance? position target with
  | some distance => .ok distance
  | none => .error (.malformed (.targetOutsideBody position target))

def word (value : Int) : Bytes := Bytes.i32 (Int32.ofInt value)

def emit (offsets : Offsets) (position : Nat) (form : Form) : Except Error Bytes :=
  let zeros := List.replicate (padding (offsets.getD position 0 + 1)) 0
  match form with
  | .fixed bytes => .ok bytes
  | .jump opcode target => do
    let distance ← relative offsets position target
    if Opcode.isWideJump opcode then return opcode :: word distance
    else if fits16 distance then return opcode :: Bytes.i16 (Int16.ofInt distance)
    else throw (.relayout (.branchTooFar (Opcode.mnemonic opcode) position distance))
  | .tableSwitch default low high targets => do
    let default ← relative offsets position default
    let targets ← targets.mapM (relative offsets position)
    return Opcode.tableSwitch :: zeros ++ word default ++ Bytes.i32 low ++ Bytes.i32 high ++
      targets.flatMap word
  | .lookupSwitch default pairs => do
    let default ← relative offsets position default
    let pairs ← pairs.mapM fun (key, target) => do
      return Bytes.i32 key ++ word (← relative offsets position target)
    return Opcode.lookupSwitch :: zeros ++ word default ++ word pairs.length ++ pairs.flatten

def encodeForms (forms : List Form) : Except Error EncodedBody := do
  let (forms, offsets) ← settle forms
  let pieces ← forms.zipIdx.mapM fun (form, position) => emit offsets position form
  return ⟨pieces.flatten, offsets⟩

def encode (instructions : List Instruction) : Interning EncodedBody := do
  let forms ← instructions.mapM resolve
  match encodeForms forms with
  | .ok body => return body
  | .error error => throw error

end Body
end ClassRename
