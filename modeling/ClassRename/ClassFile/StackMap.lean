import ClassRename.Body.OffsetMap
import ClassRename.Cursor

namespace ClassRename.StackMap

inductive VerificationType where
  | plain (tag : UInt8)
  | object (index : UInt16)
  | uninitialized (offset : UInt16)
deriving Repr, DecidableEq

inductive Items where
  | implied (types : List VerificationType)
  | counted (locals stack : List VerificationType)
deriving Repr, DecidableEq

structure Frame where
  kind : UInt8
  offset : Nat
  items : Items
deriving Repr, DecidableEq

def VerificationType.toBytes : VerificationType → Bytes
  | .plain tag => [tag]
  | .object index => 7 :: Bytes.u16 index
  | .uninitialized offset => 8 :: Bytes.u16 offset

def Items.toBytes : Items → Bytes
  | .implied types => types.flatMap VerificationType.toBytes
  | .counted locals stack =>
    Bytes.count locals ++ locals.flatMap VerificationType.toBytes ++
      Bytes.count stack ++ stack.flatMap VerificationType.toBytes

-- A compact kind holds the distance itself. When that is too far for it, the frame takes the
-- extended kind of the same meaning.
def header (kind : UInt8) (delta : UInt16) : Bytes :=
  if kind < 64 then if delta ≤ 63 then [delta.toUInt8] else 251 :: Bytes.u16 delta
  else if kind < 128 then if delta ≤ 63 then [64 + delta.toUInt8] else 247 :: Bytes.u16 delta
  else kind :: Bytes.u16 delta

def delta (previous : Option Nat) (offset : Nat) : UInt16 :=
  match previous with
  | none => UInt16.ofNat offset
  | some before => UInt16.ofNat (offset - before - 1)

def Frame.toBytes (previous : Option Nat) (frame : Frame) : Bytes :=
  header frame.kind (delta previous frame.offset) ++ frame.items.toBytes

def storedDelta (kind : UInt8) : Scan UInt16 :=
  if kind < 64 then pure kind.toUInt16
  else if kind < 128 then pure (kind - 64).toUInt16
  else if 247 ≤ kind then Scan.u16
  else Scan.fail (.reservedFrame kind)

def verificationType (translate : UInt16 → Except Error UInt16) : Scan VerificationType := do
  let tag ← Scan.u8
  if tag ≤ 6 then return .plain tag
  else if tag = 7 then return .object (← Scan.u16)
  else if tag = 8 then return .uninitialized (← Scan.lift (translate (← Scan.u16)))
  else Scan.fail (.unknownVerificationType tag)

def impliedCount (kind : UInt8) : Nat :=
  if 64 ≤ kind ∧ kind ≤ 127 ∨ kind = 247 then 1
  else if 252 ≤ kind then kind.toNat - 251
  else 0

def readItems (translate : UInt16 → Except Error UInt16) (kind : UInt8) : Scan Items := do
  if kind = 255 then
    let locals ← Scan.counted (verificationType translate)
    return .counted locals (← Scan.counted (verificationType translate))
  else return .implied (← Scan.times (impliedCount kind) (verificationType translate))

def readFrame (translate : UInt16 → Except Error UInt16) (previous : Option Nat) :
    Scan (Nat × Frame) := do
  let kind ← Scan.u8
  let stored ← storedDelta kind
  let offset :=
    match previous with
    | none => stored.toNat
    | some before => before + stored.toNat + 1
  if 65535 < offset then Scan.fail (.frameOverflow offset)
  let moved ← Scan.lift (translate (UInt16.ofNat offset))
  return (offset, ⟨kind, moved.toNat, ← readItems translate kind⟩)

def readFrames (translate : UInt16 → Except Error UInt16) :
    (count : Nat) → (previous : Option Nat) → List Frame → Scan (List Frame)
  | 0, _, found => pure found.reverse
  | count + 1, previous, found => do
    let (offset, frame) ← readFrame translate previous
    readFrames translate count (some offset) (frame :: found)

def framesToBytes (frames : List Frame) : Bytes :=
  let befores := none :: frames.map fun frame => some frame.offset
  ((frames.zip befores).map fun (frame, previous) => frame.toBytes previous).flatten

def remap (map : OffsetMap) : Scan Bytes := do
  let count ← Scan.u16
  let frames ← readFrames map.translate count.toNat none []
  return Bytes.u16 count ++ framesToBytes frames

end ClassRename.StackMap
