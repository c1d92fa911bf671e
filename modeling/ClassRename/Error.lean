import ClassRename.Constant

namespace ClassRename

-- What is wrong with a class file or with a method body. Offsets and indices are those of the
-- input; mnemonics are carried as text because reserved opcodes have none of their own.
inductive Flaw where
  | invalidMagic (found : UInt32)
  | emptyPoolCount
  | unknownTag (code : UInt8) (offset : Nat)
  | wideOverrun (index count : Nat)
  | invalidIndex (index : UInt16) (slots : Nat)
  | unexpectedConstant (expected : String) (index : UInt16) (found : Constant)
  | undecodableText (index : UInt16)
  | undecodableClassName (index : UInt16)
  | notLoadable (index : UInt16) (found : Constant)
  | textTooLong (size : Nat)
  | reservedOpcode (opcode : UInt8) (offset : Nat)
  | branchBeforeStart (offset : Nat)
  | invertedSwitch (offset : Nat) (high low : Int32)
  | negativePairs (offset : Nat) (count : Int32)
  | notWidenable (offset : Nat) (mnemonic : String)
  | notAField (mnemonic : String) (index : UInt16)
  | isAField (mnemonic : String) (index : UInt16)
  | targetInsideInstruction (target : Nat)
  | targetOutsideBody (position target : Nat)
  | notABoundary (offset : UInt16)
  | rangeOverflow (start : UInt16)
  | reservedFrame (kind : UInt8)
  | frameOverflow (offset : Nat)
  | unknownVerificationType (tag : UInt8)
  | invalidCodeLength (length : Nat)
  | trailingAfterCode (size : Nat)
  | trailingAfterClass (size : Nat)
deriving Repr, DecidableEq

inductive Obstacle where
  | bodyTooLong
  | branchTooFar (mnemonic : String) (position : Nat) (offset : Int)
  | countChanged (old new : Nat)
  | notCarried (name : String)
deriving Repr, DecidableEq

inductive FileFault where
  | notFound
  | alreadyExists
  | notADirectory
  | isDirectory
  | nameTooLong
deriving Repr, DecidableEq

inductive Absence where
  | notConfigured
  | unreadable (fault : FileFault)
deriving Repr, DecidableEq

inductive Defect where
  | notUtf8 (fault : Utf8.Fault)
  | notJson
  | notAnObject (found : String)
  | notAString (key found : String)
deriving Repr, DecidableEq

inductive Error where
  | malformed (flaw : Flaw)
  | outOfBounds
  | poolFull
  | relayout (obstacle : Obstacle)
  | tableUnavailable (origin : String) (absence : Absence)
  | tableMalformed (origin : String) (defect : Defect)
deriving Repr, DecidableEq

def Flaw.message : Flaw → String
  | .invalidMagic found => "Invalid magic 0x" ++ Text.upperHex 8 found.toNat
  | .emptyPoolCount => "constant_pool_count must be at least 1"
  | .unknownTag code offset => s!"Unknown constant pool tag {code} at offset {offset}"
  | .wideOverrun index count =>
    s!"Wide constant at index {index} overruns constant_pool_count {count}"
  | .invalidIndex index slots =>
    s!"Invalid constant pool index {index} (pool has {slots} slots)"
  | .unexpectedConstant expected index found =>
    s!"Expected {expected} at constant pool index {index}, found {found.shown}"
  | .undecodableText index =>
    s!"Utf8 at constant pool index {index} does not decode to a string"
  | .undecodableClassName index =>
    s!"Class name at constant pool index {index} does not decode to a string"
  | .notLoadable index found =>
    s!"Constant pool index {index} ({found.shown}) is not loadable"
  | .textTooLong size => s!"Utf8 constant of {size} bytes is too long"
  | .reservedOpcode opcode offset =>
    "Reserved opcode 0x" ++ Text.upperHex 2 opcode.toNat ++ s!" at offset {offset}"
  | .branchBeforeStart offset => s!"Branch at {offset} jumps before the method start"
  | .invertedSwitch offset high low =>
    s!"tableswitch at {offset} has high {high.toInt} below low {low.toInt}"
  | .negativePairs offset count =>
    s!"lookupswitch at {offset} has negative npairs {count.toInt}"
  | .notWidenable offset mnemonic =>
    s!"wide at {offset} modifies {mnemonic} which cannot be widened"
  | .notAField mnemonic index => s!"{mnemonic} references #{index} which is not a field"
  | .isAField mnemonic index => s!"{mnemonic} references #{index} which is a field"
  | .targetInsideInstruction target =>
    s!"Branch target {target} is not the start of an instruction"
  | .targetOutsideBody position target =>
    s!"Instruction {position} branches to {target} outside the method body"
  | .notABoundary offset => s!"Offset {offset} is not an instruction boundary"
  | .rangeOverflow start => s!"Local variable range overflows at {start}"
  | .reservedFrame kind => s!"Reserved stack map frame type {kind}"
  | .frameOverflow offset => s!"Stack map frame offset {offset} overflows"
  | .unknownVerificationType tag => s!"Unknown verification type tag {tag}"
  | .invalidCodeLength length => s!"Invalid code_length {length}"
  | .trailingAfterCode size => s!"{size} trailing bytes after Code attribute"
  | .trailingAfterClass size => s!"{size} trailing bytes after class file"

def Obstacle.message : Obstacle → String
  | .bodyTooLong => "method body grows beyond 65535 bytes"
  | .branchTooFar mnemonic position offset =>
    s!"{mnemonic} at instruction {position} needs offset {offset} which exceeds 16 bits"
  | .countChanged old new => s!"instruction count changed from {old} to {new}"
  | .notCarried name => s!"{name} cannot be carried across a relayout"

def FileFault.message : FileFault → String
  | .notFound => "No such file or directory (os error 2)"
  | .alreadyExists => "File exists (os error 17)"
  | .notADirectory => "Not a directory (os error 20)"
  | .isDirectory => "Is a directory (os error 21)"
  | .nameTooLong => "File name too long (os error 36)"

def Absence.message : Absence → String
  | .notConfigured => "no rename table configured"
  | .unreadable fault => fault.message

def Defect.message : Defect → String
  | .notUtf8 fault => "not UTF-8: " ++ fault.message
  | .notJson => "json syntax"
  | .notAnObject found => s!"expected a JSON object, found {found}"
  | .notAString key found => s!"value for \"{key}\" must be a string, found {found}"

def Error.message : Error → String
  | .malformed flaw => "Malformed: " ++ flaw.message
  | .outOfBounds => "Out of Bound read would have occurred"
  | .poolFull => "Constant pool is full, cannot add more than 65535 entries"
  | .relayout obstacle => "Cannot relayout method body: " ++ obstacle.message
  | .tableUnavailable origin absence =>
    s!"Rename table unavailable ({origin}): {absence.message}"
  | .tableMalformed origin defect =>
    s!"Rename table malformed ({origin}): {defect.message}"

end ClassRename
