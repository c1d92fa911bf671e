namespace ClassRename.Text

inductive ControlState where
  | ground
  | escape
  | escapeIntermediate
  | control
  | deviceStart
  | deviceParameters
  | deviceIntermediates
  | string
  | command
deriving Repr, DecidableEq

def ControlState.showsBlanks : ControlState → Bool
  | .ground | .escape | .escapeIntermediate | .control => true
  | _ => false

def isLaidOut (scalar : Char) : Bool :=
  scalar = '\t' || scalar = '\n' || scalar = '\x0C' || scalar = '\r'

def isDisplayed (scalar : Char) : Bool := ' ' ≤ scalar && scalar ≠ '\x7F'

def hasTerminator (scalar : Char) : Bool :=
  let value := scalar.toNat
  (0x80 ≤ value && value % 64 = 0x1C) || (0x800 ≤ value && value / 64 % 64 = 0x1C) ||
    (0x10000 ≤ value && value / 4096 % 64 = 0x1C)

def ControlState.afterEscape (scalar : Char) : ControlState :=
  if scalar < ' ' || '\x7F' ≤ scalar then .escape
  else if scalar < '0' then .escapeIntermediate
  else if scalar = '[' then .control
  else if scalar = ']' then .command
  else if scalar = 'P' then .deviceStart
  else if scalar = 'X' || scalar = '^' || scalar = '_' then .string
  else .ground

def ControlState.inDeviceHead (state : ControlState) (scalar : Char) : ControlState :=
  if scalar < ' ' || '\x7F' ≤ scalar then state
  else if scalar < '0' then .deviceIntermediates
  else if '@' ≤ scalar then .string
  else if state = .deviceIntermediates then .string
  else if state = .deviceParameters && '<' ≤ scalar then .string
  else .deviceParameters

def ControlState.next (state : ControlState) (scalar : Char) : ControlState :=
  if scalar = '\x1B' then .escape
  else if scalar = '\x18' || scalar = '\x1A' then .ground
  else match state with
  | .ground => .ground
  | .escape => .afterEscape scalar
  | .escapeIntermediate => if '0' ≤ scalar && scalar < '\x7F' then .ground else state
  | .control => if '@' ≤ scalar && scalar < '\x7F' then .ground else state
  | .deviceStart | .deviceParameters | .deviceIntermediates => state.inDeviceHead scalar
  | .string => if hasTerminator scalar then .ground else state
  | .command => if scalar = '\x07' then .ground else state

-- A line break inside a sequence starts a run of shown characters that puts the sequence off:
-- it goes on after the run, unless the run has a character beyond ASCII.
structure Stripping where
  state : ControlState
  inRun : Bool
  shown : List Char

def Stripping.feed (stripping : Stripping) (scalar : Char) : Stripping :=
  let state := stripping.state
  let isShown := isLaidOut scalar || isDisplayed scalar
  if stripping.inRun && isShown then
    ⟨if scalar < '\x80' then state else .ground, true, scalar :: stripping.shown⟩
  else if (isLaidOut scalar && state.showsBlanks) || (isDisplayed scalar && state = .ground) then
    ⟨state, true, scalar :: stripping.shown⟩
  else ⟨state.next scalar, false, stripping.shown⟩

def withoutControls (text : String) : String :=
  String.ofList (text.toList.foldl Stripping.feed ⟨.ground, false, []⟩).shown.reverse

end ClassRename.Text
