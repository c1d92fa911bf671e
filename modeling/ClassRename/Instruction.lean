import ClassRename.Bytes
import ClassRename.Descriptor
import ClassRename.Number.Shortest
import ClassRename.Opcode
import ClassRename.Text.Quoted

namespace ClassRename

structure FieldAccess where
  opcode : UInt8
  owner : String
  name : String
  descriptor : String
  index : Option UInt16
deriving Repr, DecidableEq

structure Invocation where
  opcode : UInt8
  owner : String
  name : String
  descriptor : String
  isInterface : Bool
  index : Option UInt16
  count : Option UInt8
deriving Repr, DecidableEq

-- Only `type` names a class. `other` is a loadable constant without a value of its own here,
-- or one whose text cannot be read, by its pool index.
inductive Loadable where
  | integer (value : Int32)
  | float (bits : UInt32)
  | long (value : Int64)
  | double (bits : UInt64)
  | string (text : String)
  | type (name : String)
  | other (index : UInt16)
deriving Repr, DecidableEq

structure ConstantLoad where
  opcode : UInt8
  value : Loadable
  index : Option UInt16
deriving Repr, DecidableEq

inductive Instruction where
  | field (access : FieldAccess)
  | method (call : Invocation)
  | load (constant : ConstantLoad)
  | branch (opcode : UInt8) (target : Nat)
  | tableSwitch (default : Nat) (low high : Int32) (targets : List Nat)
  | lookupSwitch (default : Nat) (pairs : List (Int32 × Nat))
  | other (opcode : UInt8) (operands : Bytes)
deriving Repr, DecidableEq

def Invocation.make (opcode : UInt8) (owner name descriptor : String) (isInterface : Bool) :
    Invocation :=
  ⟨opcode, owner, name, descriptor, isInterface || opcode == Opcode.invokeInterface, none, none⟩

namespace Loadable

def typeName? : Loadable → Option String
  | .type name => some name
  | _ => none

def isWide : Loadable → Bool
  | .long _ | .double _ => true
  | _ => false

def shown : Loadable → String
  | .integer value => toString value.toInt
  | .float bits => Number.single.text bits.toNat ++ "f"
  | .long value => toString value.toInt ++ "l"
  | .double bits => Number.double.text bits.toNat ++ "d"
  | .string text => Text.quoted text
  | .type name => "class " ++ name
  | .other index => "#" ++ toString index.toNat

end Loadable

def ConstantLoad.make (value : Loadable) : ConstantLoad :=
  ⟨if value.isWide then Opcode.ldc2W else Opcode.ldc, value, none⟩

namespace Instruction

def simple (opcode : UInt8) : Instruction := .other opcode []

def opcode : Instruction → UInt8
  | .field access => access.opcode
  | .method call => call.opcode
  | .load constant => constant.opcode
  | .branch opcode _ | .other opcode _ => opcode
  | .tableSwitch .. => Opcode.tableSwitch
  | .lookupSwitch .. => Opcode.lookupSwitch

def mnemonic (instruction : Instruction) : String := Opcode.mnemonic instruction.opcode

def referencedClass? : Instruction → Option String
  | .field access => some access.owner
  | .method call => some call.owner
  | .load constant => constant.value.typeName?
  | _ => none

def retarget [Monad m] (place : Nat → m Nat) : Instruction → m Instruction
  | .branch opcode target => do return .branch opcode (← place target)
  | .tableSwitch default low high targets => do
    let default ← place default
    return .tableSwitch default low high (← targets.mapM place)
  | .lookupSwitch default pairs => do
    let default ← place default
    return .lookupSwitch default (← pairs.mapM fun (key, target) => do return (key, ← place target))
  | instruction => pure instruction

def shown (instruction : Instruction) : String :=
  match instruction with
  | .field access =>
    s!"{instruction.mnemonic} {access.owner}.{access.name}:{access.descriptor}"
  | .method call => s!"{instruction.mnemonic} {call.owner}.{call.name}{call.descriptor}"
  | .load constant => s!"{instruction.mnemonic} {constant.value.shown}"
  | .branch _ target => s!"{instruction.mnemonic} ->{target}"
  | .tableSwitch _ low high _ => s!"tableswitch [{low.toInt}..={high.toInt}]"
  | .lookupSwitch _ pairs => s!"lookupswitch ({pairs.length} cases)"
  | .other _ operands =>
    operands.foldl (fun shown byte => shown ++ " " ++ Text.upperHex 2 byte.toNat)
      instruction.mnemonic

end Instruction
end ClassRename
