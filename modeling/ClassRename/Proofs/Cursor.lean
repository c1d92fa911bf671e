import ClassRename.Proofs.Scan

namespace ClassRename.Cursor
open Scan Effects

inductive Numeral where
  | u8 | u16 | u32 | u64
  | i8 | i16 | i32 | i64
deriving Repr, DecidableEq

namespace Numeral

def Value : Numeral → Type
  | .u8 => UInt8
  | .u16 => UInt16
  | .u32 => UInt32
  | .u64 => UInt64
  | .i8 => Int8
  | .i16 => Int16
  | .i32 => Int32
  | .i64 => Int64

def width : Numeral → Nat
  | .u8 | .i8 => 1
  | .u16 | .i16 => 2
  | .u32 | .i32 => 4
  | .u64 | .i64 => 8

def read : (numeral : Numeral) → Scan numeral.Value
  | .u8 => Scan.u8
  | .u16 => Scan.u16
  | .u32 => Scan.u32
  | .u64 => Scan.u64
  | .i8 => Scan.i8
  | .i16 => Scan.i16
  | .i32 => Scan.i32
  | .i64 => Scan.i64

def toBytes : (numeral : Numeral) → numeral.Value → Bytes
  | .u8, (value : UInt8) => [value]
  | .u16, value => Bytes.u16 value
  | .u32, value => Bytes.u32 value
  | .u64, value => Bytes.u64 value
  | .i8, (value : Int8) => [value.toUInt8]
  | .i16, value => Bytes.i16 value
  | .i32, value => Bytes.i32 value
  | .i64, value => Bytes.i64 value

theorem length_toBytes (numeral : Numeral) (value : numeral.Value) :
    (numeral.toBytes value).length = numeral.width := by
  cases numeral with
  | u8 | i8 => rfl
  | u16 => exact Bytes.length_u16 value
  | u32 => exact Bytes.length_u32 value
  | u64 => exact Bytes.length_u64 value
  | i16 => exact Bytes.length_i16 value
  | i32 => exact Bytes.length_i32 value
  | i64 => exact Bytes.length_i64 value

theorem codec (numeral : Numeral) : Codec numeral.read numeral.toBytes (fun _ => True) := by
  cases numeral with
  | u8 => exact u8_codec
  | u16 => exact u16_codec
  | u32 => exact u32_codec
  | u64 => exact u64_codec
  | i8 => exact u8_codec.map (fun _ => rfl) (fun _ => rfl)
  | i16 => exact i16_codec
  | i32 => exact i32_codec
  | i64 => exact i64_codec

theorem read_error_iff (numeral : Numeral) : numeral.read before = .error error after ↔
    before.rest.length < numeral.width ∧ error = .outOfBounds ∧ after = before := by
  rw [← bytes_error_iff]
  cases numeral <;>
    simp only [read, Value, Scan.u8, Scan.u16, Scan.u32, Scan.u64, Scan.i8, Scan.i16, Scan.i32,
      Scan.i64, number, run_map_error_iff, width]

end Numeral

inductive Call where
  | seek (position : Nat)
  | advance (size : Nat)
  | number (numeral : Numeral)
  | bytes (size : Nat)
  | prefixedBytes
  | peek
  | endOf (size : Nat)
deriving Repr, DecidableEq

def placed (data : Bytes) (position : Nat) : Cursor := ⟨data, position, data.drop position⟩

def checkedSum (greatest left right : Nat) : Option Nat :=
  if left + right ≤ greatest then some (left + right) else none

-- The data go on for `size` bytes from `start`, with the end computed in such words.
def Reaches (greatest : Nat) (data : Bytes) (start size : Nat) : Prop :=
  ∃ stop, checkedSum greatest start size = some stop ∧ stop ≤ data.length

namespace Call

def Answer : Call → Type
  | .seek _ | .advance _ => Unit
  | .number numeral => numeral.Value
  | .bytes _ | .prefixedBytes => Bytes
  | .peek => UInt8
  | .endOf _ => Nat

def perform : (call : Call) → Scan call.Answer
  | .seek position => Scan.seek position
  | .advance size => Scan.advance size
  | .number numeral => numeral.read
  | .bytes size => Scan.bytes size
  | .prefixedBytes => Scan.prefixedBytes
  | .peek => Scan.peek
  | .endOf size => Scan.endOf size

def leaves (cursor : Cursor) (call : Call) : Cursor :=
  match call.perform cursor with
  | .ok _ later | .error _ later => later

def Fits (greatest : Nat) (data : Bytes) (start : Nat) : Call → Prop
  | .seek position => position ≤ data.length
  | .advance size | .bytes size | .endOf size => Reaches greatest data start size
  | .number numeral => Reaches greatest data start numeral.width
  | .prefixedBytes => Reaches greatest data start 2 ∧
      Reaches greatest data (start + 2) (Bytes.toNat (data.extract start (start + 2)))
  | .peek => start < data.length

def Takes (data : Bytes) (start stop : Nat) : (call : Call) → call.Answer → Prop
  | .seek position, _ => stop = position
  | .advance size, _ => stop = start + size
  | .number numeral, value =>
    stop = start + numeral.width ∧ numeral.toBytes value = data.extract start stop
  | .bytes size, value => stop = start + size ∧ value = data.extract start stop
  | .prefixedBytes, value =>
    List.length value = Bytes.toNat (data.extract start (start + 2)) ∧
      stop = start + 2 + List.length value ∧ value = data.extract (start + 2) stop
  | .peek, value => stop = start ∧ data[start]? = some value
  | .endOf size, value => stop = start ∧ value = start + size ∧ start + size ≤ data.length

-- Where a refused call leaves the cursor: where it was, unless a byte string is cut off behind its
-- length, which then stays read.
def refused (cursor : Cursor) : Call → Cursor
  | .prefixedBytes =>
    if cursor.position + 2 ≤ cursor.data.length then placed cursor.data (cursor.position + 2)
    else cursor
  | _ => cursor

end Call

section Steps
variable {data : Bytes} {start greatest : Nat}

theorem reaches_iff (holds : data.length ≤ greatest) :
    Reaches greatest data start size ↔ start + size ≤ data.length := by
  unfold Reaches checkedSum
  constructor
  · intro stated
    rcases stated with ⟨stop, sum, inside⟩
    split at sum
    · cases sum
      exact inside
    · cases sum
  · intro inside
    exact ⟨start + size, if_pos (Nat.le_trans inside holds), inside⟩

theorem Passed.placed (passed : Passed used (placed data start) after)
    (inside : start ≤ data.length) :
    after = .placed data (start + used.length) ∧ start + used.length ≤ data.length ∧
      used = data.extract start (start + used.length) := by
  have rest : data.drop start = used ++ after.rest := passed.rest
  have behind : after.rest = data.drop (start + used.length) := by
    rw [← List.drop_drop, rest, List.drop_left]
  have size := congrArg List.length rest
  rw [List.length_drop, List.length_append] at size
  refine ⟨?_, by omega, ?_⟩
  · rw [passed.after_eq, behind]
    rfl
  · rw [List.extract_eq_take_drop, Nat.add_sub_cancel_left, rest, List.take_left]

theorem bytes_takes (inside : start ≤ data.length)
    (read : bytes size (placed data start) = .ok value later) :
    later = placed data (start + size) ∧ start + size ≤ data.length ∧
      value = data.extract start (start + size) := by
  obtain ⟨rfl, passed⟩ := (bytes_codec size).sound _ _ _ read
  exact passed.placed inside

theorem prefixedBytes_takes (inside : start ≤ data.length)
    (read : prefixedBytes (placed data start) = .ok value later) :
    ∃ stop ≤ data.length, later = placed data stop ∧ Call.prefixedBytes.Takes data start stop value := by
  obtain ⟨short, passed⟩ := prefixedBytes_codec.sound _ _ _ read
  obtain ⟨middle, first, second⟩ := passed.split
  obtain ⟨rfl, within, counted⟩ := first.placed inside
  obtain ⟨moved, bounded, taken⟩ := second.placed within
  have size : (Bytes.count value).length = 2 := Bytes.length_ofNat _ _
  rw [size] at moved bounded taken counted
  have number : value.length = Bytes.toNat (data.extract start (start + 2)) := by
    rw [← counted, Bytes.count, Bytes.toNat_ofNat_of_lt short]
  exact ⟨_, bounded, moved, number, rfl, taken⟩

theorem Call.perform_ok {call : Call} {value : call.Answer} (inside : start ≤ data.length)
    (done : call.perform (placed data start) = .ok value later) :
    ∃ stop ≤ data.length, later = placed data stop ∧ call.Takes data start stop value := by
  cases call with
  | seek position =>
    obtain ⟨bounded, rfl⟩ := seek_ok_iff.mp done
    exact ⟨position, bounded, rfl, rfl⟩
  | advance size =>
    obtain ⟨skipped, rfl, passed⟩ := advance_ok_iff.mp done
    obtain ⟨moved, bounded, _⟩ := passed.placed inside
    exact ⟨_, bounded, moved, rfl⟩
  | number numeral =>
    obtain ⟨moved, bounded, taken⟩ := (numeral.codec.sound _ _ _ done).2.placed inside
    exact ⟨_, bounded, moved, congrArg (start + ·) (numeral.length_toBytes value), taken⟩
  | bytes size =>
    obtain ⟨moved, bounded, taken⟩ := bytes_takes inside done
    exact ⟨_, bounded, moved, rfl, taken⟩
  | prefixedBytes => exact prefixedBytes_takes inside done
  | peek =>
    obtain ⟨found, rfl⟩ := peek_ok_iff.mp done
    rw [placed, List.head?_drop] at found
    exact ⟨start, inside, rfl, rfl, found⟩
  | endOf size =>
    obtain ⟨enough, rfl, rfl⟩ := endOf_ok_iff.mp done
    change size ≤ (data.drop start).length at enough
    rw [List.length_drop] at enough
    exact ⟨start, inside, rfl, rfl, rfl, by omega⟩

theorem short_iff (inside : start ≤ data.length) (holds : data.length ≤ greatest) :
    (placed data start).rest.length < size ↔ ¬ Reaches greatest data start size := by
  change (data.drop start).length < size ↔ _
  rw [reaches_iff holds, List.length_drop]
  omega

theorem bytes_placed (within : start + size ≤ data.length) :
    bytes size (placed data start) =
      .ok (data.extract start (start + size)) (placed data (start + size)) := by
  have enough : size ≤ data.length - start := by omega
  simp [bytes, placed, Bytes.split?_eq, enough]

theorem prefixedBytes_refused (inside : start ≤ data.length) (holds : data.length ≤ greatest) :
    prefixedBytes (placed data start) = .error error later ↔
      ¬ Call.prefixedBytes.Fits greatest data start ∧ error = .outOfBounds ∧
        later = Call.prefixedBytes.refused (placed data start) := by
  rw [prefixedBytes_error_iff, bytes_error_iff, short_iff inside holds, Call.Fits]
  by_cases counted : start + 2 ≤ data.length
  · have reaches : Reaches greatest data start 2 := (reaches_iff holds).mpr counted
    have stops : Call.prefixedBytes.refused (placed data start) = placed data (start + 2) :=
      if_pos counted
    simp only [bytes_placed counted, reaches, stops, not_true, false_and, false_or, true_and]
    rw [← short_iff counted holds, ← bytes_error_iff]
    constructor
    · intro stated
      rcases stated with ⟨_, _, same, cut⟩
      cases same
      exact cut
    · intro cut
      exact ⟨_, _, rfl, cut⟩
  · have short : ¬ Reaches greatest data start 2 := mt (reaches_iff holds).mp counted
    have stays : Call.prefixedBytes.refused (placed data start) = placed data start :=
      if_neg counted
    simp only [short, stays, not_false_eq_true, true_and, false_and]
    refine or_iff_left_of_imp ?_
    intro stated
    rcases stated with ⟨given, middle, taken, _⟩
    exact absurd (bytes_takes inside taken).2.1 counted

theorem Call.perform_error_iff {call : Call} (inside : start ≤ data.length)
    (holds : data.length ≤ greatest) :
    call.perform (placed data start) = .error error later ↔
      ¬ call.Fits greatest data start ∧ error = .outOfBounds ∧
        later = call.refused (placed data start) := by
  cases call with
  | seek position => exact seek_error_iff
  | advance size => exact advance_error_iff.trans (and_congr_left' (short_iff inside holds))
  | number numeral => exact numeral.read_error_iff.trans (and_congr_left' (short_iff inside holds))
  | bytes size => exact bytes_error_iff.trans (and_congr_left' (short_iff inside holds))
  | prefixedBytes => exact prefixedBytes_refused inside holds
  | peek =>
    refine peek_error_iff.trans (and_congr_left' ?_)
    exact List.drop_eq_nil_iff.trans Nat.not_lt.symm
  | endOf size => exact endOf_error_iff.trans (and_congr_left' (short_iff inside holds))

-- What one call does in words up to `greatest`: it gives the bytes it passes and stays inside the
-- data, or it is refused for want of data.
structure Call.Bounded (greatest : Nat) (cursor : Cursor) (call : Call) : Prop where
  answers : ∀ value later, call.perform cursor = .ok value later →
    later.data = cursor.data ∧ later.position ≤ cursor.data.length ∧
      call.Takes cursor.data cursor.position later.position value
  refuses : ∀ error later, call.perform cursor = .error error later ↔
    ¬ call.Fits greatest cursor.data cursor.position ∧ error = .outOfBounds ∧
      later = call.refused cursor

theorem placed_coherent (inside : start ≤ data.length) : (placed data start).Coherent :=
  ⟨inside, rfl⟩

theorem Coherent.eq_placed {cursor : Cursor} (coherent : cursor.Coherent) :
    cursor = placed cursor.data cursor.position := by
  rw [placed, ← coherent.2]

theorem Call.bounded {cursor : Cursor} (coherent : cursor.Coherent)
    (holds : cursor.data.length ≤ greatest) (call : Call) : call.Bounded greatest cursor := by
  rw [coherent.eq_placed]
  constructor
  · intro value later done
    obtain ⟨stop, inside, rfl, takes⟩ := perform_ok coherent.1 done
    exact ⟨rfl, inside, takes⟩
  · intro error later
    exact perform_error_iff coherent.1 holds

theorem Call.refused_coherent {cursor : Cursor} (coherent : cursor.Coherent) (call : Call) :
    (call.refused cursor).Coherent ∧ (call.refused cursor).data = cursor.data := by
  unfold refused
  split
  · split
    · rename_i counted
      exact ⟨placed_coherent counted, rfl⟩
    · exact ⟨coherent, rfl⟩
  · exact ⟨coherent, rfl⟩

theorem Call.leaves_coherent {cursor : Cursor} (coherent : cursor.Coherent) (call : Call) :
    (call.leaves cursor).Coherent ∧ (call.leaves cursor).data = cursor.data := by
  unfold leaves
  split
  · rename_i value later done
    rw [coherent.eq_placed] at done
    obtain ⟨stop, inside, rfl, _⟩ := perform_ok coherent.1 done
    exact ⟨placed_coherent inside, rfl⟩
  · rename_i error later failed
    obtain ⟨_, _, rfl⟩ := ((call.bounded coherent (Nat.le_refl _)).refuses error later).mp failed
    exact call.refused_coherent coherent

end Steps

def afterCalls (data : Bytes) (calls : List Call) : Cursor := calls.foldl Call.leaves (.start data)

theorem foldl_coherent {cursor : Cursor} (coherent : cursor.Coherent) (calls : List Call) :
    (calls.foldl Call.leaves cursor).Coherent ∧
      (calls.foldl Call.leaves cursor).data = cursor.data := by
  induction calls generalizing cursor with
  | nil => exact ⟨coherent, rfl⟩
  | cons call others ih =>
    obtain ⟨kept, same⟩ := call.leaves_coherent coherent
    obtain ⟨last, unchanged⟩ := ih kept
    exact ⟨last, unchanged.trans same⟩

theorem afterCalls_coherent (data : Bytes) (calls : List Call) :
    (afterCalls data calls).Coherent ∧ (afterCalls data calls).data = data :=
  foldl_coherent ⟨Nat.zero_le _, rfl⟩ calls

-- Whatever was called before, the cursor stands inside its data and the next call is bounded.
theorem afterCalls_bounded (data : Bytes) (calls : List Call) {greatest : Nat}
    (holds : data.length ≤ greatest) :
    (afterCalls data calls).data = data ∧ (afterCalls data calls).Coherent ∧
      ∀ call : Call, call.Bounded greatest (afterCalls data calls) := by
  obtain ⟨coherent, same⟩ := afterCalls_coherent data calls
  refine ⟨same, coherent, fun call => call.bounded coherent ?_⟩
  rw [same]
  exact holds

def truncated : Bytes := [0x00, 0x05, 0x6C, 0x69, 0x62]

theorem truncated_moves :
    Call.prefixedBytes.perform (.start truncated) = .error .outOfBounds (placed truncated 2) ∧
      (placed truncated 2).position ≠ (Cursor.start truncated).position :=
  ⟨rfl, by decide⟩

theorem truncated_bounded :
    truncated.length ≤ 2 ^ 64 - 1 ∧
      afterCalls truncated [.prefixedBytes, .seek 1, .advance (2 ^ 64 - 1)] = placed truncated 1 ∧
      (placed truncated 1).Coherent ∧ (∀ call : Call, call.Bounded (2 ^ 64 - 1) (placed truncated 1)) ∧
      (Call.advance (2 ^ 64 - 1)).perform (placed truncated 1) =
        .error .outOfBounds (placed truncated 1) := by
  have holds : truncated.length ≤ 2 ^ 64 - 1 := by decide
  have stands :
      afterCalls truncated [.prefixedBytes, .seek 1, .advance (2 ^ 64 - 1)] = placed truncated 1 := by
    decide
  have far : ¬ Reaches (2 ^ 64 - 1) truncated 1 (2 ^ 64 - 1) :=
    mt (reaches_iff holds).mp (by decide)
  obtain ⟨_, coherent, bounded⟩ :=
    afterCalls_bounded truncated [.prefixedBytes, .seek 1, .advance (2 ^ 64 - 1)] holds
  rw [stands] at coherent bounded
  have refused := ((bounded (.advance (2 ^ 64 - 1))).refuses _ _).mpr ⟨far, rfl, rfl⟩
  exact ⟨holds, stands, coherent, bounded, refused⟩

end ClassRename.Cursor
