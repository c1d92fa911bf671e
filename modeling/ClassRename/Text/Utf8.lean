import ClassRename.Bytes

namespace ClassRename.Utf8

-- A character some of whose bytes have been seen. The next byte must lie in the given range;
-- the narrowed ranges after E0, ED, F0 and F4 exclude overlong forms, surrogates and values
-- past U+10FFFF.
structure Unfinished where
  value : Nat
  seen : Nat
  missing : Nat
  low : UInt8
  high : UInt8

inductive Start where
  | whole (scalar : Char)
  | first (part : Unfinished)
  | never

def start (byte : UInt8) : Start :=
  if byte < 0x80 then .whole (Char.ofNat byte.toNat)
  else if byte < 0xC2 then .never
  else if byte < 0xE0 then .first ⟨byte.toNat - 0xC0, 1, 1, 0x80, 0xBF⟩
  else if byte = 0xE0 then .first ⟨0, 1, 2, 0xA0, 0xBF⟩
  else if byte = 0xED then .first ⟨0xD, 1, 2, 0x80, 0x9F⟩
  else if byte < 0xF0 then .first ⟨byte.toNat - 0xE0, 1, 2, 0x80, 0xBF⟩
  else if byte = 0xF0 then .first ⟨0, 1, 3, 0x90, 0xBF⟩
  else if byte < 0xF4 then .first ⟨byte.toNat - 0xF0, 1, 3, 0x80, 0xBF⟩
  else if byte = 0xF4 then .first ⟨4, 1, 3, 0x80, 0x8F⟩
  else .never

inductive Segment where
  | scalar (value : Char)
  | broken (width : Nat)
  | cut (width : Nat)
deriving Repr, DecidableEq

structure Reading where
  found : List Segment
  part : Option Unfinished

def Reading.restart (found : List Segment) (byte : UInt8) : Reading :=
  match start byte with
  | .whole scalar => ⟨.scalar scalar :: found, none⟩
  | .first part => ⟨found, some part⟩
  | .never => ⟨.broken 1 :: found, none⟩

def Reading.feed (reading : Reading) (byte : UInt8) : Reading :=
  match reading.part with
  | none => .restart reading.found byte
  | some part =>
    if part.low ≤ byte ∧ byte ≤ part.high then
      let value := part.value * 64 + byte.toNat % 64
      if part.missing = 1 then ⟨.scalar (Char.ofNat value) :: reading.found, none⟩
      else ⟨reading.found, some ⟨value, part.seen + 1, part.missing - 1, 0x80, 0xBF⟩⟩
    else .restart (.broken part.seen :: reading.found) byte

def Reading.finish (reading : Reading) : List Segment :=
  match reading.part with
  | none => reading.found.reverse
  | some part => (.cut part.seen :: reading.found).reverse

def segments (bytes : Bytes) : List Segment :=
  (bytes.foldl Reading.feed ⟨[], none⟩).finish

def Segment.scalar? : Segment → Option Char
  | .scalar value => some value
  | _ => none

def Segment.width : Segment → Nat
  | .scalar value => value.utf8Size
  | .broken width | .cut width => width

def decode? (bytes : Bytes) : Option (List Char) :=
  (segments bytes).mapM Segment.scalar?

def decodeLossy (bytes : Bytes) : List Char :=
  (segments bytes).map fun segment => segment.scalar?.getD '\uFFFD'

structure Fault where
  offset : Nat
  segment : Segment
deriving Repr, DecidableEq

def fault? (bytes : Bytes) : Option Fault :=
  let found := segments bytes
  let good := found.takeWhile (·.scalar?.isSome)
  (found.drop good.length).head?.map fun segment =>
    ⟨good.foldl (fun offset segment => offset + segment.width) 0, segment⟩

def Fault.message : Fault → String
  | ⟨offset, .broken width⟩ => s!"invalid utf-8 sequence of {width} bytes from index {offset}"
  | ⟨offset, _⟩ => s!"incomplete utf-8 byte sequence from index {offset}"

def encodeChar (scalar : Char) : Bytes :=
  let value := scalar.toNat
  if value < 0x80 then [UInt8.ofNat value]
  else if value < 0x800 then
    [UInt8.ofNat (0xC0 + value / 64), UInt8.ofNat (0x80 + value % 64)]
  else if value < 0x10000 then
    [UInt8.ofNat (0xE0 + value / 4096), UInt8.ofNat (0x80 + value / 64 % 64),
      UInt8.ofNat (0x80 + value % 64)]
  else
    [UInt8.ofNat (0xF0 + value / 262144), UInt8.ofNat (0x80 + value / 4096 % 64),
      UInt8.ofNat (0x80 + value / 64 % 64), UInt8.ofNat (0x80 + value % 64)]

def encode (text : List Char) : Bytes := text.flatMap encodeChar

end ClassRename.Utf8
