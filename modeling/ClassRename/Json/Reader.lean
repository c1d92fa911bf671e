import ClassRename.Json.Basic
import ClassRename.Text.Utf16

namespace ClassRename.Json

inductive Token where
  | openArray
  | closeArray
  | openObject
  | closeObject
  | comma
  | colon
  | scalar (value : Json)

namespace Lexer

def isBlank (scalar : Char) : Bool :=
  scalar = ' ' || scalar = '\n' || scalar = '\t' || scalar = '\r'

def punctuation? (scalar : Char) : Option Token :=
  if scalar = '[' then some .openArray
  else if scalar = ']' then some .closeArray
  else if scalar = '\x7b' then some .openObject
  else if scalar = '\x7d' then some .closeObject
  else if scalar = ',' then some .comma
  else if scalar = ':' then some .colon
  else none

def digit? (scalar : Char) : Option Nat :=
  if scalar.isDigit then some (scalar.toNat - '0'.toNat) else none

def hexDigit? (scalar : Char) : Option Nat :=
  if 'a' ≤ scalar ∧ scalar ≤ 'f' then some (scalar.toNat - 'a'.toNat + 10)
  else if 'A' ≤ scalar ∧ scalar ≤ 'F' then some (scalar.toNat - 'A'.toNat + 10)
  else digit? scalar

structure Magnitude where
  significand : Nat
  exponent : Int

-- A whole digit that does not fit makes the number ten times as large; a digit of the
-- fraction that does not fit is dropped.
def Magnitude.whole (magnitude : Magnitude) (cut : Bool) (digit : Nat) : Magnitude × Bool :=
  let significand := magnitude.significand * 10 + digit
  if cut ∨ Nat.pow 2 64 ≤ significand then (⟨magnitude.significand, magnitude.exponent + 1⟩, true)
  else (⟨significand, magnitude.exponent⟩, false)

def Magnitude.fraction (magnitude : Magnitude) (digits : List Nat) : Magnitude :=
  match digits with
  | [] => magnitude
  | digit :: rest =>
    let significand := magnitude.significand * 10 + digit
    if Nat.pow 2 64 ≤ significand then magnitude
    else Magnitude.fraction ⟨significand, magnitude.exponent - 1⟩ rest

def Magnitude.inRange (magnitude : Magnitude) : Bool :=
  if magnitude.significand = 0 ∨ magnitude.exponent < 0 then true
  else if 308 < magnitude.exponent then false
  else
    let scaled := Float.ofNat magnitude.significand *
      Float.ofScientific 1 false magnitude.exponent.toNat
    !scaled.isInf

def digits (text : List Char) : List Nat × List Char :=
  ((text.takeWhile Char.isDigit).filterMap digit?, text.dropWhile Char.isDigit)

def exponentInRange (magnitude : Magnitude) (text : List Char) : Bool :=
  let (negative, text) :=
    match text with
    | '-' :: rest => (true, rest)
    | '+' :: rest => (false, rest)
    | rest => (false, rest)
  let (found, rest) := digits text
  let exponent : Nat := found.foldl (fun value digit => value * 10 + digit) 0
  !found.isEmpty && rest.isEmpty &&
    if Nat.pow 2 31 ≤ exponent then magnitude.significand = 0 || negative
    else
      Magnitude.inRange ⟨magnitude.significand,
        magnitude.exponent + if negative then -(exponent : Int) else exponent⟩

def isNumber (text : List Char) : Bool :=
  let text := match text with
    | '-' :: rest => rest
    | rest => rest
  let (whole, rest) := digits text
  let leadingZero := whole.head? == some 0 && 1 < whole.length
  let magnitude :=
    (whole.foldl (fun (magnitude, cut) digit => magnitude.whole cut digit) (⟨0, 0⟩, false)).1
  !whole.isEmpty && !leadingZero &&
    match rest with
    | [] => magnitude.inRange
    | '.' :: rest =>
      let (fraction, rest) := digits rest
      let magnitude := magnitude.fraction fraction
      !fraction.isEmpty &&
        match rest with
        | [] => magnitude.inRange
        | mark :: rest => (mark == 'e' || mark == 'E') && exponentInRange magnitude rest
    | mark :: rest => (mark == 'e' || mark == 'E') && exponentInRange magnitude rest

def word? (text : List Char) : Option Json :=
  if text = ['n', 'u', 'l', 'l'] then some .null
  else if text = ['t', 'r', 'u', 'e'] then some (.bool true)
  else if text = ['f', 'a', 'l', 's', 'e'] then some (.bool false)
  else if isNumber text then some (.number (String.ofList text))
  else none

-- What is being read. Text comes newest first; `lead` is a leading surrogate that the next
-- escape must complete.
inductive Mode where
  | between
  | word (text : List Char)
  | string (text : List Char) (lead : Option UInt16)
  | escape (text : List Char) (lead : Option UInt16)
  | hex (text : List Char) (lead : Option UInt16) (missing value : Nat)

structure State where
  tokens : List Token
  mode : Mode

def start (tokens : List Token) (scalar : Char) : State :=
  if isBlank scalar then ⟨tokens, .between⟩
  else if scalar = '"' then ⟨tokens, .string [] none⟩
  else
    match punctuation? scalar with
    | some token => ⟨token :: tokens, .between⟩
    | none => ⟨tokens, .word [scalar]⟩

def simpleEscape? (scalar : Char) : Option Char :=
  if scalar = '"' ∨ scalar = '\\' ∨ scalar = '/' then some scalar
  else if scalar = 'b' then some '\x08'
  else if scalar = 'f' then some '\x0c'
  else if scalar = 'n' then some '\n'
  else if scalar = 'r' then some '\r'
  else if scalar = 't' then some '\t'
  else none

def unit? (text : List Char) (lead : Option UInt16) (unit : UInt16) : Option Mode :=
  match lead with
  | some lead =>
    if Utf16.isTrail unit then some (.string (Utf16.joined lead unit :: text) none) else none
  | none =>
    if Utf16.isLead unit then some (.string text (some unit))
    else if Utf16.isTrail unit then none
    else some (.string (Char.ofNat unit.toNat :: text) none)

def feed (state : State) (scalar : Char) : Option State :=
  match state.mode with
  | .between => some (start state.tokens scalar)
  | .word text =>
    if isBlank scalar ∨ scalar = '"' ∨ (punctuation? scalar).isSome then do
      return start (.scalar (← word? text.reverse) :: state.tokens) scalar
    else some ⟨state.tokens, .word (scalar :: text)⟩
  | .string text lead =>
    if scalar = '\\' then some ⟨state.tokens, .escape text lead⟩
    else if lead.isSome ∨ scalar.toNat < 0x20 then none
    else if scalar = '"' then
      some ⟨.scalar (.string (String.ofList text.reverse)) :: state.tokens, .between⟩
    else some ⟨state.tokens, .string (scalar :: text) none⟩
  | .escape text lead =>
    if scalar = 'u' then some ⟨state.tokens, .hex text lead 4 0⟩
    else if lead.isSome then none
    else do return ⟨state.tokens, .string ((← simpleEscape? scalar) :: text) none⟩
  | .hex text lead missing value => do
    let value := value * 16 + (← hexDigit? scalar)
    if missing = 1 then return ⟨state.tokens, ← unit? text lead (UInt16.ofNat value)⟩
    else return ⟨state.tokens, .hex text lead (missing - 1) value⟩

def finish (state : State) : Option (List Token) :=
  match state.mode with
  | .between => some state.tokens.reverse
  | .word text => do return (.scalar (← word? text.reverse) :: state.tokens).reverse
  | _ => none

def tokens? (text : String) : Option (List Token) := do
  finish (← text.toList.foldlM feed ⟨[], .between⟩)

end Lexer

inductive Open where
  | array (items : List Json)
  | object (members : List (String × Json))
  | member (members : List (String × Json)) (key : String)

inductive Expected where
  | value
  | valueOrEnd
  | key
  | keyOrEnd
  | colon
  | commaOrEnd
  | nothing (result : Json)

structure Progress where
  stack : List Open
  expected : Expected

def maxDepth : Nat := 127

def Progress.complete (value : Json) : List Open → Option Progress
  | [] => some ⟨[], .nothing value⟩
  | .array items :: stack => some ⟨.array (value :: items) :: stack, .commaOrEnd⟩
  | .member members key :: stack => some ⟨.object ((key, value) :: members) :: stack, .commaOrEnd⟩
  | .object _ :: _ => none

def Progress.enter (container : Open) (expected : Expected) (stack : List Open) :
    Option Progress :=
  if stack.length < maxDepth then some ⟨container :: stack, expected⟩ else none

def Progress.value (stack : List Open) : Token → Option Progress
  | .openArray => Progress.enter (.array []) .valueOrEnd stack
  | .openObject => Progress.enter (.object []) .keyOrEnd stack
  | .scalar value => Progress.complete value stack
  | _ => none

def Progress.key : List Open → Token → Option Progress
  | .object members :: stack, .scalar (.string key) =>
    some ⟨.member members key :: stack, .colon⟩
  | _, _ => none

def Progress.step (progress : Progress) (token : Token) : Option Progress :=
  match progress.expected, progress.stack, token with
  | .value, stack, token => Progress.value stack token
  | .valueOrEnd, .array items :: stack, .closeArray =>
    Progress.complete (.array items.reverse) stack
  | .valueOrEnd, stack, token => Progress.value stack token
  | .key, stack, token => Progress.key stack token
  | .keyOrEnd, .object members :: stack, .closeObject =>
    Progress.complete (.object members.reverse) stack
  | .keyOrEnd, stack, token => Progress.key stack token
  | .colon, stack, .colon => some ⟨stack, .value⟩
  | .commaOrEnd, .array items :: stack, .comma => some ⟨.array items :: stack, .value⟩
  | .commaOrEnd, .array items :: stack, .closeArray =>
    Progress.complete (.array items.reverse) stack
  | .commaOrEnd, .object members :: stack, .comma => some ⟨.object members :: stack, .key⟩
  | .commaOrEnd, .object members :: stack, .closeObject =>
    Progress.complete (.object members.reverse) stack
  | _, _, _ => none

def parse? (text : String) : Option Json := do
  let tokens ← Lexer.tokens? text
  let progress ← tokens.foldlM Progress.step ⟨[], .value⟩
  match progress with
  | ⟨[], .nothing result⟩ => some result
  | _ => none

end ClassRename.Json
