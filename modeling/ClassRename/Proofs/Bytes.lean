import ClassRename.Bytes
import Mathlib.Tactic.Ring

namespace ClassRename.Bytes

theorem foldl_value (bytes : Bytes) (value : Nat) :
    bytes.foldl (fun value byte => value * 256 + byte.toNat) value =
      value * 256 ^ bytes.length + toNat bytes := by
  induction bytes generalizing value with
  | nil => simp [toNat]
  | cons byte rest ih =>
    have here := ih byte.toNat
    have there := ih (value * 256 + byte.toNat)
    simp only [toNat, List.foldl_cons, List.length_cons] at *
    rw [there, Nat.zero_mul, Nat.zero_add, here]
    ring

theorem toNat_cons (byte : UInt8) (rest : Bytes) :
    toNat (byte :: rest) = byte.toNat * 256 ^ rest.length + toNat rest := by
  have tail := foldl_value rest byte.toNat
  simpa [toNat] using tail

theorem toNat_lt (bytes : Bytes) : toNat bytes < 256 ^ bytes.length := by
  induction bytes with
  | nil => simp [toNat]
  | cons byte rest ih =>
    rw [toNat_cons, List.length_cons, Nat.pow_succ]
    have digit : byte.toNat < 256 := byte.toNat_lt
    have scaled : (byte.toNat + 1) * 256 ^ rest.length ≤ 256 * 256 ^ rest.length :=
      Nat.mul_le_mul_right _ digit
    rw [Nat.add_mul] at scaled
    omega

theorem ofNat_succ (width value : Nat) :
    ofNat (width + 1) value = UInt8.ofNat (value / 256 ^ width) :: ofNat width value := rfl

theorem toNat_ofNat (width value : Nat) : toNat (ofNat width value) = value % 256 ^ width := by
  induction width with
  | zero => simp [ofNat, toNat, Nat.mod_one]
  | succ width ih =>
    rw [ofNat_succ, toNat_cons, ih, length_ofNat, Nat.pow_succ, Nat.mod_mul]
    simp [Nat.mul_comm]
    omega

theorem ofNat_of_mod (width left right : Nat) (same : left % 256 ^ width = right % 256 ^ width) :
    ofNat width left = ofNat width right := by
  induction width with
  | zero => rfl
  | succ width ih =>
    have low : left % 256 ^ width = right % 256 ^ width := by
      have divides : 256 ^ width ∣ 256 ^ (width + 1) := Nat.pow_dvd_pow _ (Nat.le_succ _)
      rw [← Nat.mod_mod_of_dvd left divides, same, Nat.mod_mod_of_dvd right divides]
    have digit : left / 256 ^ width % 256 = right / 256 ^ width % 256 := by
      rw [Nat.pow_succ, Nat.mod_mul, Nat.mod_mul, low] at same
      have positive : 0 < 256 ^ width := Nat.pow_pos (by decide)
      exact Nat.eq_of_mul_eq_mul_left positive (Nat.add_left_cancel same)
    rw [ofNat_succ, ofNat_succ, ih low]
    congr 1
    apply UInt8.toNat_inj.mp
    simpa using digit

theorem ofNat_toNat (bytes : Bytes) : ofNat bytes.length (toNat bytes) = bytes := by
  induction bytes with
  | nil => rfl
  | cons byte rest ih =>
    have small := toNat_lt rest
    have positive : 0 < 256 ^ rest.length := Nat.pow_pos (by decide)
    rw [List.length_cons, ofNat_succ, toNat_cons]
    congr 1
    · rw [Nat.add_comm, Nat.add_mul_div_right _ _ positive, Nat.div_eq_of_lt small]
      simp
    · rw [ofNat_of_mod rest.length _ (toNat rest) (by simp), ih]

theorem toNat_ofNat_of_lt {width value : Nat} (fits : value < 256 ^ width) :
    toNat (ofNat width value) = value := by
  rw [toNat_ofNat, Nat.mod_eq_of_lt fits]

@[simp] theorem length_u16 (value : UInt16) : (u16 value).length = 2 := length_ofNat _ _
@[simp] theorem length_u32 (value : UInt32) : (u32 value).length = 4 := length_ofNat _ _
@[simp] theorem length_u64 (value : UInt64) : (u64 value).length = 8 := length_ofNat _ _
@[simp] theorem length_i16 (value : Int16) : (i16 value).length = 2 := length_u16 _
@[simp] theorem length_i32 (value : Int32) : (i32 value).length = 4 := length_u32 _
@[simp] theorem length_i64 (value : Int64) : (i64 value).length = 8 := length_u64 _

theorem u16_toNat (value : UInt16) : UInt16.ofNat (toNat (u16 value)) = value := by
  rw [u16, toNat_ofNat_of_lt value.toNat_lt, UInt16.ofNat_toNat]

theorem u32_toNat (value : UInt32) : UInt32.ofNat (toNat (u32 value)) = value := by
  rw [u32, toNat_ofNat_of_lt value.toNat_lt, UInt32.ofNat_toNat]

theorem u64_toNat (value : UInt64) : UInt64.ofNat (toNat (u64 value)) = value := by
  rw [u64, toNat_ofNat_of_lt value.toNat_lt, UInt64.ofNat_toNat]

theorem u16_ofBytes (bytes : Bytes) (width : bytes.length = 2) :
    u16 (UInt16.ofNat (toNat bytes)) = bytes := by
  have fits : toNat bytes < 2 ^ 16 := by simpa [width] using toNat_lt bytes
  rw [u16, UInt16.toNat_ofNat_of_lt' fits, ← width, ofNat_toNat]

theorem u32_ofBytes (bytes : Bytes) (width : bytes.length = 4) :
    u32 (UInt32.ofNat (toNat bytes)) = bytes := by
  have fits : toNat bytes < 2 ^ 32 := by simpa [width] using toNat_lt bytes
  rw [u32, UInt32.toNat_ofNat_of_lt' fits, ← width, ofNat_toNat]

theorem u64_ofBytes (bytes : Bytes) (width : bytes.length = 8) :
    u64 (UInt64.ofNat (toNat bytes)) = bytes := by
  have fits : toNat bytes < 2 ^ 64 := by simpa [width] using toNat_lt bytes
  rw [u64, UInt64.toNat_ofNat_of_lt' fits, ← width, ofNat_toNat]

theorem count_eq (items : List α) (short : items.length < 65536) :
    count items = u16 (UInt16.ofNat items.length) := by
  rw [count, u16, UInt16.toNat_ofNat_of_lt' short]

theorem length_toNat_ofNat (value : Nat) (short : value < 2 ^ 32) :
    ofNat 4 value = u32 (UInt32.ofNat value) := by
  rw [u32, UInt32.toNat_ofNat_of_lt' short]

end ClassRename.Bytes
