namespace ClassRename

inductive Layout where
  | none
  | fixed (size : Nat)
  | poolIndex (extra : Nat)
  | poolIndexU8
  | branch16
  | branch32
  | tableSwitch
  | lookupSwitch
  | wide
deriving Repr, DecidableEq

namespace Opcode

def ldc : UInt8 := 0x12
def ldcW : UInt8 := 0x13
def ldc2W : UInt8 := 0x14
def iinc : UInt8 := 0x84
def goto : UInt8 := 0xA7
def jsr : UInt8 := 0xA8
def ret : UInt8 := 0xA9
def tableSwitch : UInt8 := 0xAA
def lookupSwitch : UInt8 := 0xAB
def invokeInterface : UInt8 := 0xB9
def wide : UInt8 := 0xC4
def gotoW : UInt8 := 0xC8
def jsrW : UInt8 := 0xC9

def mnemonics : Array String := #[
    "nop", "aconst_null", "iconst_m1", "iconst_0", "iconst_1", "iconst_2", "iconst_3",
    "iconst_4", "iconst_5", "lconst_0", "lconst_1", "fconst_0", "fconst_1", "fconst_2",
    "dconst_0", "dconst_1", "bipush", "sipush", "ldc", "ldc_w", "ldc2_w", "iload", "lload",
    "fload", "dload", "aload", "iload_0", "iload_1", "iload_2", "iload_3", "lload_0",
    "lload_1", "lload_2", "lload_3", "fload_0", "fload_1", "fload_2", "fload_3", "dload_0",
    "dload_1", "dload_2", "dload_3", "aload_0", "aload_1", "aload_2", "aload_3", "iaload",
    "laload", "faload", "daload", "aaload", "baload", "caload", "saload", "istore",
    "lstore", "fstore", "dstore", "astore", "istore_0", "istore_1", "istore_2", "istore_3",
    "lstore_0", "lstore_1", "lstore_2", "lstore_3", "fstore_0", "fstore_1", "fstore_2",
    "fstore_3", "dstore_0", "dstore_1", "dstore_2", "dstore_3", "astore_0", "astore_1",
    "astore_2", "astore_3", "iastore", "lastore", "fastore", "dastore", "aastore",
    "bastore", "castore", "sastore", "pop", "pop2", "dup", "dup_x1", "dup_x2", "dup2",
    "dup2_x1", "dup2_x2", "swap", "iadd", "ladd", "fadd", "dadd", "isub", "lsub", "fsub",
    "dsub", "imul", "lmul", "fmul", "dmul", "idiv", "ldiv", "fdiv", "ddiv", "irem", "lrem",
    "frem", "drem", "ineg", "lneg", "fneg", "dneg", "ishl", "lshl", "ishr", "lshr", "iushr",
    "lushr", "iand", "land", "ior", "lor", "ixor", "lxor", "iinc", "i2l", "i2f", "i2d",
    "l2i", "l2f", "l2d", "f2i", "f2l", "f2d", "d2i", "d2l", "d2f", "i2b", "i2c", "i2s",
    "lcmp", "fcmpl", "fcmpg", "dcmpl", "dcmpg", "ifeq", "ifne", "iflt", "ifge", "ifgt",
    "ifle", "if_icmpeq", "if_icmpne", "if_icmplt", "if_icmpge", "if_icmpgt", "if_icmple",
    "if_acmpeq", "if_acmpne", "goto", "jsr", "ret", "tableswitch", "lookupswitch",
    "ireturn", "lreturn", "freturn", "dreturn", "areturn", "return", "getstatic",
    "putstatic", "getfield", "putfield", "invokevirtual", "invokespecial", "invokestatic",
    "invokeinterface", "invokedynamic", "new", "newarray", "anewarray", "arraylength",
    "athrow", "checkcast", "instanceof", "monitorenter", "monitorexit", "wide",
    "multianewarray", "ifnull", "ifnonnull", "goto_w", "jsr_w"]

def isReserved (opcode : UInt8) : Bool := 0xCA ≤ opcode

def mnemonic (opcode : UInt8) : String := mnemonics[opcode.toNat]?.getD "<reserved>"

def isIndexedLocal (opcode : UInt8) : Bool :=
  (0x15 ≤ opcode && opcode ≤ 0x19) || (0x36 ≤ opcode && opcode ≤ 0x3A)

def isFieldAccess (opcode : UInt8) : Bool := 0xB2 ≤ opcode && opcode ≤ 0xB5
def isInvocation (opcode : UInt8) : Bool := 0xB6 ≤ opcode && opcode ≤ 0xB9
def isWideLoad (opcode : UInt8) : Bool := opcode == ldcW || opcode == ldc2W
def isNarrowJump (opcode : UInt8) : Bool := opcode == goto || opcode == jsr
def isWideJump (opcode : UInt8) : Bool := opcode == gotoW || opcode == jsrW

def layout (opcode : UInt8) : Layout :=
  if opcode = 0x10 then .fixed 1
  else if opcode = 0x11 then .fixed 2
  else if opcode = ldc then .poolIndexU8
  else if isWideLoad opcode then .poolIndex 0
  else if isIndexedLocal opcode then .fixed 1
  else if opcode = iinc then .fixed 2
  else if 0x99 ≤ opcode ∧ opcode ≤ jsr then .branch16
  else if opcode = ret then .fixed 1
  else if opcode = tableSwitch then .tableSwitch
  else if opcode = lookupSwitch then .lookupSwitch
  else if 0xB2 ≤ opcode ∧ opcode ≤ 0xB8 then .poolIndex 0
  else if opcode = invokeInterface ∨ opcode = 0xBA then .poolIndex 2
  else if opcode = 0xBC then .fixed 1
  else if opcode = 0xBB ∨ opcode = 0xBD ∨ opcode = 0xC0 ∨ opcode = 0xC1 then .poolIndex 0
  else if opcode = wide then .wide
  else if opcode = 0xC5 then .poolIndex 1
  else if opcode = 0xC6 ∨ opcode = 0xC7 then .branch16
  else if isWideJump opcode then .branch32
  else .none

def widened? (modified : UInt8) : Option Nat :=
  if modified = iinc then some 4
  else if isIndexedLocal modified ∨ modified = ret then some 2
  else none

def wideJump (opcode : UInt8) : UInt8 :=
  if opcode = goto then gotoW else if opcode = jsr then jsrW else opcode

end Opcode
end ClassRename
