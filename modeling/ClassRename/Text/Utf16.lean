namespace ClassRename.Utf16

def encodeChar (scalar : Char) : List UInt16 :=
  let value := scalar.toNat
  if value < 0x10000 then [UInt16.ofNat value]
  else
    [UInt16.ofNat (0xD800 + (value - 0x10000) / 0x400),
      UInt16.ofNat (0xDC00 + (value - 0x10000) % 0x400)]

def encode (text : List Char) : List UInt16 := text.flatMap encodeChar

def isLead (unit : UInt16) : Bool := 0xD800 ≤ unit && unit < 0xDC00
def isTrail (unit : UInt16) : Bool := 0xDC00 ≤ unit && unit < 0xE000

def joined (lead trail : UInt16) : Char :=
  Char.ofNat (0x10000 + (lead.toNat - 0xD800) * 0x400 + (trail.toNat - 0xDC00))

-- What the units read so far stand for, newest first, `none` for an unpaired surrogate; and
-- a leading surrogate that may still find its partner.
structure Reading where
  found : List (Option Char)
  lead : Option UInt16

def Reading.restart (found : List (Option Char)) (unit : UInt16) : Reading :=
  if isLead unit then ⟨found, some unit⟩
  else if isTrail unit then ⟨none :: found, none⟩
  else ⟨some (Char.ofNat unit.toNat) :: found, none⟩

def Reading.feed (reading : Reading) (unit : UInt16) : Reading :=
  match reading.lead with
  | none => .restart reading.found unit
  | some lead =>
    if isTrail unit then ⟨some (joined lead unit) :: reading.found, none⟩
    else .restart (none :: reading.found) unit

def Reading.finish (reading : Reading) : List (Option Char) :=
  match reading.lead with
  | none => reading.found.reverse
  | some _ => (none :: reading.found).reverse

def scalars (units : List UInt16) : List (Option Char) :=
  (units.foldl Reading.feed ⟨[], none⟩).finish

def decode? (units : List UInt16) : Option (List Char) := (scalars units).mapM id

def decodeLossy (units : List UInt16) : List Char := (scalars units).map (·.getD '\uFFFD')

end ClassRename.Utf16
