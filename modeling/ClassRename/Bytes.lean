namespace ClassRename

abbrev Bytes := List UInt8

namespace Bytes

-- A reading keeps every byte; a writing keeps the `width` low bytes of the number, so a
-- number that does not fit loses its high bytes and nothing else.
def toNat (bytes : Bytes) : Nat :=
  bytes.foldl (fun value byte => value * 256 + byte.toNat) 0

def ofNat : (width : Nat) → (value : Nat) → Bytes
  | 0, _ => []
  | width + 1, value => UInt8.ofNat (value / Nat.pow 256 width) :: ofNat width value

def u16 (value : UInt16) : Bytes := ofNat 2 value.toNat
def u32 (value : UInt32) : Bytes := ofNat 4 value.toNat
def u64 (value : UInt64) : Bytes := ofNat 8 value.toNat
def i16 (value : Int16) : Bytes := u16 value.toUInt16
def i32 (value : Int32) : Bytes := u32 value.toUInt32
def i64 (value : Int64) : Bytes := u64 value.toUInt64

def count (items : List α) : Bytes := ofNat 2 items.length

def split? (size : Nat) (bytes : Bytes) : Option (Bytes × Bytes) := go size bytes []
where
  go : Nat → Bytes → Bytes → Option (Bytes × Bytes)
    | 0, rest, taken => some (taken.reverse, rest)
    | _ + 1, [], _ => none
    | size + 1, byte :: rest, taken => go size rest (byte :: taken)

theorem length_ofNat (width value : Nat) : (ofNat width value).length = width := by
  induction width with
  | zero => rfl
  | succ width ih => simp [ofNat, ih]

theorem split?_go (size : Nat) (bytes taken : Bytes) :
    split?.go size bytes taken =
      if size ≤ bytes.length then some (taken.reverse ++ bytes.take size, bytes.drop size)
      else none := by
  induction size generalizing bytes taken with
  | zero => simp [split?.go]
  | succ size ih =>
    cases bytes with
    | nil => simp [split?.go]
    | cons byte rest => simp [split?.go, ih]

theorem split?_eq (size : Nat) (bytes : Bytes) :
    split? size bytes =
      if size ≤ bytes.length then some (bytes.take size, bytes.drop size) else none := by
  simp [split?, split?_go]

theorem split?_append (front back : Bytes) :
    split? front.length (front ++ back) = some (front, back) := by
  simp [split?_eq]

end Bytes
end ClassRename
