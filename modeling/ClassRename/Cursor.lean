import ClassRename.Error

namespace ClassRename

structure Cursor where
  data : Bytes
  position : Nat
  rest : Bytes
deriving Repr, DecidableEq

-- A reader keeps the cursor also when it fails, so a failure can be resumed from.
abbrev Scan := EStateM Error Cursor

namespace Cursor

def start (data : Bytes) : Cursor := ⟨data, 0, data⟩

def Coherent (cursor : Cursor) : Prop :=
  cursor.position ≤ cursor.data.length ∧ cursor.rest = cursor.data.drop cursor.position

def hasMore (cursor : Cursor) : Bool := !cursor.rest.isEmpty

def remaining (cursor : Cursor) : Nat := cursor.data.length - cursor.position

end Cursor

namespace Scan

def run (reader : Scan α) (data : Bytes) : Except Error α :=
  match EStateM.run reader (.start data) with
  | .ok value _ => .ok value
  | .error error _ => .error error

def seek (position : Nat) : Scan Unit := fun cursor =>
  if position ≤ cursor.data.length then
    .ok () ⟨cursor.data, position, cursor.data.drop position⟩
  else .error .outOfBounds cursor

def bytes (size : Nat) : Scan Bytes := fun cursor =>
  match Bytes.split? size cursor.rest with
  | some (taken, rest) => .ok taken ⟨cursor.data, cursor.position + size, rest⟩
  | none => .error .outOfBounds cursor

def advance (size : Nat) : Scan Unit := do
  let _ ← bytes size

def endOf (size : Nat) : Scan Nat := fun cursor =>
  match Bytes.split? size cursor.rest with
  | some _ => .ok (cursor.position + size) cursor
  | none => .error .outOfBounds cursor

def peek : Scan UInt8 := fun cursor =>
  match cursor.rest with
  | byte :: _ => .ok byte cursor
  | [] => .error .outOfBounds cursor

def position : Scan Nat := fun cursor => .ok cursor.position cursor

def number (width : Nat) : Scan Nat := Bytes.toNat <$> bytes width

def u8 : Scan UInt8 := UInt8.ofNat <$> number 1
def u16 : Scan UInt16 := UInt16.ofNat <$> number 2
def u32 : Scan UInt32 := UInt32.ofNat <$> number 4
def u64 : Scan UInt64 := UInt64.ofNat <$> number 8
def i8 : Scan Int8 := UInt8.toInt8 <$> u8
def i16 : Scan Int16 := UInt16.toInt16 <$> u16
def i32 : Scan Int32 := UInt32.toInt32 <$> u32
def i64 : Scan Int64 := UInt64.toInt64 <$> u64

-- A byte string behind its length. If the string is cut off, the length stays read.
def prefixedBytes : Scan Bytes := do
  bytes (← u16).toNat

def times (count : Nat) (item : Scan α) : Scan (List α) := go count []
where
  go : Nat → List α → Scan (List α)
    | 0, found => pure found.reverse
    | count + 1, found => do
      let value ← item
      go count (value :: found)

def counted (item : Scan α) : Scan (List α) := do
  times (← u16).toNat item

def fail (flaw : Flaw) : Scan α := throw (.malformed flaw)

def lift (result : Except Error α) : Scan α :=
  match result with
  | .ok value => pure value
  | .error error => throw error

def finished (flaw : Nat → Flaw) : Scan Unit := fun cursor =>
  if cursor.hasMore then .error (.malformed (flaw cursor.remaining)) cursor else .ok () cursor

end Scan
end ClassRename
