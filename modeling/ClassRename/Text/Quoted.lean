import ClassRename.Text.Hidden

namespace ClassRename.Text

def hex (value : Nat) : String := String.ofList (Nat.toDigits 16 value)

def upperHex (width value : Nat) : String :=
  let digits := (Nat.toDigits 16 value).map Char.toUpper
  String.ofList (List.replicate (width - digits.length) '0' ++ digits)

def quotedChar (scalar : Char) : List Char :=
  if scalar = '\x00' then ['\\', '0']
  else if scalar = '\t' then ['\\', 't']
  else if scalar = '\r' then ['\\', 'r']
  else if scalar = '\n' then ['\\', 'n']
  else if scalar = '\\' ∨ scalar = '"' then ['\\', scalar]
  else if isHidden scalar then
    ['\\', 'u', '\x7b'] ++ Nat.toDigits 16 scalar.toNat ++ ['\x7d']
  else [scalar]

def quoted (text : String) : String :=
  String.ofList ('"' :: text.toList.flatMap quotedChar ++ ['"'])

end ClassRename.Text
