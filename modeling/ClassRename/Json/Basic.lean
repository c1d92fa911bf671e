import ClassRename.Text.Quoted

namespace ClassRename

-- A number is kept as it was written.
inductive Json where
  | null
  | bool (value : Bool)
  | number (literal : String)
  | string (text : String)
  | array (items : List Json)
  | object (members : List (String × Json))

namespace Json

def kind : Json → String
  | .null => "null"
  | .bool _ => "a boolean"
  | .number _ => "a number"
  | .string _ => "a string"
  | .array _ => "an array"
  | .object _ => "an object"

def nat (value : Nat) : Json := .number (toString value)

def ofOption (text : Option String) : Json := (text.map Json.string).getD .null

def escapedChar (scalar : Char) : List Char :=
  if scalar = '"' ∨ scalar = '\\' then ['\\', scalar]
  else if scalar = '\n' then ['\\', 'n']
  else if scalar = '\r' then ['\\', 'r']
  else if scalar = '\t' then ['\\', 't']
  else if scalar = '\x08' then ['\\', 'b']
  else if scalar = '\x0c' then ['\\', 'f']
  else if scalar.toNat < 0x20 then
    let digits := Nat.toDigits 16 scalar.toNat
    ['\\', 'u'] ++ List.replicate (4 - digits.length) '0' ++ digits
  else [scalar]

def escaped (text : String) : String :=
  String.ofList ('"' :: text.toList.flatMap escapedChar ++ ['"'])

def block (first last : String) (depth : Nat) (lines : List String) : String :=
  let indent (depth : Nat) := "\n" ++ String.ofList (List.replicate (2 * depth) ' ')
  if lines.isEmpty then first ++ last
  else
    first ++ String.intercalate "," (lines.map (indent (depth + 1) ++ ·)) ++ indent depth ++ last

def prettyAt (depth : Nat) (value : Json) : String :=
  match value with
  | .null => "null"
  | .bool value => if value then "true" else "false"
  | .number literal => literal
  | .string text => escaped text
  | .array items =>
    block "[" "]" depth (items.attach.map fun ⟨item, _⟩ => prettyAt (depth + 1) item)
  | .object members =>
    block "\x7b" "\x7d" depth (members.attach.map fun ⟨member, _⟩ =>
      escaped member.1 ++ ": " ++ prettyAt (depth + 1) member.2)
termination_by value
decreasing_by
  · have := List.sizeOf_lt_of_mem ‹item ∈ items›
    simp only [array.sizeOf_spec]
    omega
  · have := List.sizeOf_lt_of_mem ‹member ∈ members›
    cases member
    simp only [object.sizeOf_spec, Prod.mk.sizeOf_spec] at *
    omega

def pretty (value : Json) : String := prettyAt 0 value

end Json
end ClassRename
