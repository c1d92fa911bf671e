import ClassRename.Text.Utf16
import ClassRename.Text.Utf8

namespace ClassRename.ModifiedUtf8

inductive Fault where
  | rawNul (offset : Nat)
  | lead (byte : UInt8)
  | continuation (byte : UInt8)
  | truncated
  | unpairedSurrogate
deriving Repr, DecidableEq

def isContinuation (byte : UInt8) : Bool := 0x80 ≤ byte && byte < 0xC0

-- Overlong groups are accepted; a raw zero byte is not.
def unitsFrom (offset : Nat) (found : List UInt16) : Bytes → Except Fault (List UInt16)
  | [] => .ok found.reverse
  | a :: rest =>
    if a < 0x80 then
      if a = 0 then .error (.rawNul offset)
      else unitsFrom (offset + 1) (UInt16.ofNat a.toNat :: found) rest
    else if 0xC0 ≤ a ∧ a < 0xE0 then
      match rest with
      | [] => .error .truncated
      | b :: rest =>
        if isContinuation b then
          unitsFrom (offset + 2) (UInt16.ofNat (a.toNat % 32 * 64 + b.toNat % 64) :: found) rest
        else .error (.continuation b)
    else if 0xE0 ≤ a ∧ a < 0xF0 then
      match rest with
      | [] => .error .truncated
      | [b] => .error (if isContinuation b then .truncated else .continuation b)
      | b :: c :: rest =>
        if isContinuation b then
          if isContinuation c then
            unitsFrom (offset + 3)
              (UInt16.ofNat (a.toNat % 16 * 4096 + b.toNat % 64 * 64 + c.toNat % 64) :: found) rest
          else .error (.continuation c)
        else .error (.continuation b)
    else .error (.lead a)

def units (bytes : Bytes) : Except Fault (List UInt16) := unitsFrom 0 [] bytes

def decodeUnits (bytes : Bytes) : Except Fault String := do
  match Utf16.decode? (← units bytes) with
  | some text => .ok (String.ofList text)
  | none => .error .unpairedSurrogate

def decode (bytes : Bytes) : Except Fault String :=
  match Utf8.decode? bytes with
  | some text => if text.contains '\x00' then decodeUnits bytes else .ok (String.ofList text)
  | none => decodeUnits bytes

-- What cannot be held in a string becomes U+FFFD: surrogates one by one if the groups are
-- sound, otherwise whatever is no standard UTF-8.
def decodeLossy (bytes : Bytes) : String :=
  match units bytes with
  | .ok units => String.ofList (Utf16.decodeLossy units)
  | .error _ => String.ofList (Utf8.decodeLossy bytes)

def encodeUnit (unit : UInt16) : Bytes :=
  let value := unit.toNat
  if 1 ≤ value ∧ value < 0x80 then [UInt8.ofNat value]
  else if value < 0x800 then
    [UInt8.ofNat (0xC0 + value / 64), UInt8.ofNat (0x80 + value % 64)]
  else
    [UInt8.ofNat (0xE0 + value / 4096), UInt8.ofNat (0x80 + value / 64 % 64),
      UInt8.ofNat (0x80 + value % 64)]

def isPlain (scalar : Char) : Bool := scalar.toNat ≠ 0 && scalar.toNat < 0x10000

def encode (text : String) : Bytes :=
  let scalars := text.toList
  if scalars.all isPlain then Utf8.encode scalars
  else (Utf16.encode scalars).flatMap encodeUnit

end ClassRename.ModifiedUtf8
