import ClassRename.Body.Offsets
import ClassRename.Pool.Resolve

namespace ClassRename

structure DecodedBody where
  instructions : List Instruction
  offsets : Offsets
deriving DecidableEq

namespace Body

-- The form of a pool instruction that can name a class. There is none for other opcodes, nor
-- where the names lead through text that cannot be read.
def symbolic? (pool : Pool) (opcode : UInt8) (index : UInt16) (extra : Bytes) :
    Option (Except Error Instruction) :=
  let mnemonic := Opcode.mnemonic opcode
  if pool.reachesOpaqueText index then none
  else if Opcode.isFieldAccess opcode then
    some do
      let member ← pool.memberRef index
      if member.kind ≠ .field then throw (.malformed (.notAField mnemonic index))
      return .field ⟨opcode, member.owner, member.name, member.descriptor, index⟩
  else if Opcode.isInvocation opcode then
    some do
      let member ← pool.memberRef index
      if member.kind = .field then throw (.malformed (.isAField mnemonic index))
      return .method ⟨opcode, member.owner, member.name, member.descriptor,
        member.kind = .interfaceMethod, index,
        if opcode = Opcode.invokeInterface then extra.head? else none⟩
  else if Opcode.isWideLoad opcode then
    some do return .load ⟨opcode, ← pool.loadable index, index⟩
  else none

def absolute (offset : Nat) (distance : Int32) : Except Error Nat :=
  let target := offset + distance.toInt
  if target < 0 then .error (.malformed (.branchBeforeStart offset)) else .ok target.toNat

def padding (offset : Nat) : Nat := (4 - offset % 4) % 4

def readTarget (offset : Nat) : Scan Nat := do
  Scan.lift (absolute offset (← Scan.i32))

def readTableSwitch (offset : Nat) : Scan Instruction := do
  Scan.advance (padding (← Scan.position))
  let default ← readTarget offset
  let low ← Scan.i32
  let high ← Scan.i32
  if high < low then Scan.fail (.invertedSwitch offset high low)
  let count := (high.toInt - low.toInt + 1).toNat
  let _ ← Scan.endOf (count * 4)
  return .tableSwitch default low high (← Scan.times count (readTarget offset))

def readLookupSwitch (offset : Nat) : Scan Instruction := do
  Scan.advance (padding (← Scan.position))
  let default ← readTarget offset
  let count ← Scan.i32
  if count < 0 then Scan.fail (.negativePairs offset count)
  let count := count.toInt.toNat
  let _ ← Scan.endOf (count * 8)
  let pairs ← Scan.times count do
    let key ← Scan.i32
    return (key, ← readTarget offset)
  return .lookupSwitch default pairs

def readWide (offset : Nat) : Scan Instruction := do
  let modified ← Scan.u8
  match Opcode.widened? modified with
  | some size => return .other Opcode.wide (modified :: (← Scan.bytes size))
  | none => Scan.fail (.notWidenable offset (Opcode.mnemonic modified))

def readInstruction (pool : Pool) : Scan Instruction := do
  let offset ← Scan.position
  let opcode ← Scan.u8
  if Opcode.isReserved opcode then Scan.fail (.reservedOpcode opcode offset)
  match Opcode.layout opcode with
  | .none => return .simple opcode
  | .fixed size => return .other opcode (← Scan.bytes size)
  | .poolIndexU8 => do
    let index := (← Scan.u8).toUInt16
    return .load ⟨opcode, ← Scan.lift (pool.loadable index), index⟩
  | .poolIndex extra => do
    let index ← Scan.u16
    let extra ← Scan.bytes extra
    match symbolic? pool opcode index extra with
    | some instruction => Scan.lift instruction
    | none => return .other opcode (Bytes.u16 index ++ extra)
  | .branch16 => return .branch opcode (← Scan.lift (absolute offset (← Scan.i16).toInt32))
  | .branch32 => return .branch opcode (← readTarget offset)
  | .tableSwitch => readTableSwitch offset
  | .lookupSwitch => readLookupSwitch offset
  | .wide => readWide offset

-- Every instruction takes at least a byte, so as many steps as there are bytes suffice.
def readAll (pool : Pool) : (steps : Nat) → List (Nat × Instruction) →
    Scan (List (Nat × Instruction))
  | 0, found => pure found.reverse
  | steps + 1, found => do
    let cursor ← get
    if cursor.hasMore then
      let instruction ← readInstruction pool
      readAll pool steps ((cursor.position, instruction) :: found)
    else pure found.reverse

def resolveTarget (offsets : Offsets) (target : Nat) : Except Error Nat :=
  match offsets.instructionAt? target with
  | some position => .ok position
  | none => .error (.malformed (.targetInsideInstruction target))

def decode (pool : Pool) (code : Bytes) : Except Error DecodedBody := do
  let found ← (readAll pool code.length []).run code
  let offsets := (found.map Prod.fst).toArray.push code.length
  let instructions ← found.mapM fun (_, instruction) =>
    instruction.retarget (resolveTarget offsets)
  return ⟨instructions, offsets⟩

end Body
end ClassRename
