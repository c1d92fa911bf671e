import ClassRename.Archive.Basic
import ClassRename.Archive.Zip.Format
import ClassRename.Text.CodePage437
import ClassRename.Text.Utf8

namespace ClassRename.Zip

def slice (file : Array UInt8) (position size : Nat) : Bytes :=
  (file.extract position (min (position + size) file.size)).toList

def take (file : Array UInt8) (position size : Nat) : Except Fault Bytes :=
  if position + size ≤ file.size then .ok (slice file position size) else .error .endsEarly

def record (file : Array UInt8) (position : Nat) (signature : Bytes) (size : Nat)
    (fault : Fault) : Except Fault Bytes := do
  if (← take file position signature.length) = signature then take file position size
  else throw fault

-- The last position where the end record can stand: it is followed by a comment of at most
-- 65535 bytes. `left` is the number of bytes still to search.
def lastEnd (total : Nat) (found : Option Nat) : (left : Nat) → Bytes → Option Nat
  | _, [] => found
  | left, byte :: rest =>
    let fits := endSize ≤ left ∧ left ≤ endSize + 65535 ∧ endSignature.isPrefixOf (byte :: rest)
    lastEnd total (if fits then some (total - left) else found) (left - 1) rest

structure Place where
  shift : Nat
  start : Nat
  count : Nat
deriving Repr, DecidableEq

def isOverfull (ending : Bytes) : Bool :=
  [4, 6, 8, 10].any (numberAt ending · 2 = limit16) ||
    [12, 16].any (numberAt ending · 4 = limit32)

def placeOf (position : Nat) (ending : Bytes) : Except Fault Place := do
  let size := numberAt ending 12 4
  let offset := numberAt ending 16 4
  if position < size + offset then throw .directoryBounds
  return ⟨position - size - offset, position - size, numberAt ending 8 2⟩

def locator? (file : Array UInt8) (ending : Bytes) : Option Bytes :=
  let fromEnd := locatorSize + endSize + numberAt ending 20 2
  if file.size < fromEnd then none
  else
    let found := slice file (file.size - fromEnd) locatorSize
    if locatorSignature.isPrefixOf found then some found else none

def largeEnd? (file : Array UInt8) (position : Nat) : (count : Nat) → Option Nat
  | 0 => none
  | count + 1 =>
    if slice file position 4 = largeEndSignature then some position
    else largeEnd? file (position + 1) count

def largePlace (file : Array UInt8) (position : Nat) (locator : Bytes) : Except Fault Place := do
  let leastSize := largeEndSize + 4
  if position < leastSize then throw .noRoomForLargeDirectoryEnd
  let nominal := numberAt locator 8 8
  match largeEnd? file nominal (position - leastSize + 1 - nominal) with
  | none => throw .noLargeDirectoryEnd
  | some found => do
    let ending ← take file found largeEndSize
    if numberAt ending 16 4 ≠ numberAt ending 20 4 then throw .severalDisks
    let shift := found - nominal
    let start := numberAt ending 48 8 + shift
    if Nat.pow 2 64 ≤ start then throw .directoryBounds
    return ⟨shift, start, numberAt ending 32 8⟩

def findDirectory (file : Array UInt8) : Except Fault Place := do
  if file.size < endSize then throw .tooShort
  match lastEnd file.size none file.size file.toList with
  | none => throw .noDirectoryEnd
  | some position => do
    let ending ← take file position endSize
    let _ ← take file (position + endSize) (numberAt ending 20 2)
    let disk := numberAt ending 4 2
    if !isOverfull ending ∧ disk ≠ numberAt ending 6 2 then throw .severalDisks
    match locator? file ending with
    | none => placeOf position ending
    | some locator => do
      if !isOverfull ending ∧ disk ≠ numberAt locator 4 4 then throw .severalDisks
      largePlace file position locator

structure Header where
  name : String
  isEncrypted : Bool
  isCiphered : Bool
  method : Nat
  modified : Nat
  checksum : UInt32
  packedSize : Nat
  size : Nat
  mode : Nat
  offset : Nat
deriving Repr, DecidableEq

def enlarge (field : Bytes) (value : Nat) (used : Option Nat) : Nat × Option Nat :=
  match used with
  | some used =>
    if value ≠ limit32 then (value, some used)
    else if used + 8 ≤ field.length then (numberAt field used 8, some (used + 8))
    else (value, none)
  | none => (value, none)

def checkCipher (field : Bytes) : Except Fault Nat := do
  if numberAt field 2 2 ≠ 0x4541 then throw .cipherVendor
  if numberAt field 0 2 ∉ [1, 2] then throw .cipherVersion
  if numberAt field 4 1 ∉ [1, 2, 3] then throw .cipherStrength
  return numberAt field 5 2

-- Takes the extra fields of an entry into account. Fields that are cut off end the reading
-- without a fault. What follows a field about encryption is read from as many bytes later as
-- that field has.
def Header.readExtras (header : Header) : Bytes → Except Fault Header
  | kindLow :: kindHigh :: sizeLow :: sizeHigh :: rest => do
    let kind := numberAt [kindLow, kindHigh] 0 2
    let size := numberAt [sizeLow, sizeHigh] 0 2
    if kind = largeField then
      let (fullSize, used) := enlarge rest header.size (some 0)
      let (packedSize, used) := enlarge rest header.packedSize used
      let (offset, used) := enlarge rest header.offset used
      let header := { header with size := fullSize, packedSize := packedSize, offset := offset }
      match used with
      | some used => header.readExtras (rest.drop (max size used))
      | none => return header
    else if kind = cipherField then
      if size ≠ 7 then throw .cipherLength
      else if rest.length < 7 then return header
      else
        let method ← checkCipher rest
        { header with isCiphered := true, method := method }.readExtras (rest.drop 14)
    else header.readExtras (rest.drop size)
  | _ => return header
termination_by fields => fields.length
decreasing_by all_goals simp only [List.length_drop, List.length_cons]; omega

def modeOf (system attributes : Nat) : Nat :=
  if attributes = 0 then ArchiveEntry.regularMode
  else if system = 3 then attributes / Nat.pow 2 16 % 0o1000
  else if system = 0 then
    let writable := if attributes / 16 % 2 = 1 then 0o775 else 0o664
    if attributes % 2 = 1 then writable &&& 0o555 else writable
  else ArchiveEntry.regularMode

def readHeader (file : Array UInt8) (shift position : Nat) : Except Fault (Header × Nat) := do
  let fixed ← record file position directorySignature directorySize .directoryHeader
  let flags := numberAt fixed 8 2
  let nameSize := numberAt fixed 28 2
  let extraSize := numberAt fixed 30 2
  let rest ← take file (position + directorySize)
    (nameSize + extraSize + numberAt fixed 32 2)
  let name := rest.take nameSize
  let name :=
    if flags / 2048 % 2 = 1 then String.ofList (Utf8.decodeLossy name)
    else CodePage437.decode name
  let header : Header := ⟨name, flags % 2 = 1, false, numberAt fixed 10 2, numberAt fixed 12 4,
    UInt32.ofNat (numberAt fixed 16 4), numberAt fixed 20 4, numberAt fixed 24 4,
    modeOf (numberAt fixed 5 1) (numberAt fixed 38 4), numberAt fixed 42 4⟩
  let header ← header.readExtras ((rest.drop nameSize).take extraSize)
  if header.method = cipherMethod ∧ !header.isCiphered then throw .cipherMissing
  let offset := header.offset + shift
  if Nat.pow 2 64 ≤ offset then throw .offsetTooLarge
  return ({ header with offset := offset }, position + directorySize + rest.length)

def readHeaders (file : Array UInt8) (shift : Nat) :
    (count position : Nat) → Except Fault (List Header)
  | 0, _ => return []
  | count + 1, position => do
    let (header, next) ← readHeader file shift position
    return header :: (← readHeaders file shift count next)

def readDirectory (file : Array UInt8) : Except Fault (List Header) := do
  let place ← findDirectory file
  readHeaders file place.shift place.count place.start

end ClassRename.Zip
