import ClassRename.Proofs.Effects
import ClassRename.Text.Utf8
import Mathlib.Tactic.IntervalCases

namespace ClassRename.Utf8

def Reading.settled (found : List Segment) : Reading := ⟨found, none⟩

theorem start_two (k : Nat) (low : 2 ≤ k) (high : k < 32) :
    start (UInt8.ofNat (0xC0 + k)) = .first ⟨k, 1, 1, 0x80, 0xBF⟩ := by
  interval_cases k <;> rfl

theorem start_three (k : Nat) (high : k < 16) :
    start (UInt8.ofNat (0xE0 + k)) =
      .first ⟨k, 1, 2, if k = 0 then 0xA0 else 0x80, if k = 13 then 0x9F else 0xBF⟩ := by
  interval_cases k <;> rfl

theorem start_four (k : Nat) (high : k < 5) :
    start (UInt8.ofNat (0xF0 + k)) =
      .first ⟨k, 1, 3, if k = 0 then 0x90 else 0x80, if k = 4 then 0x8F else 0xBF⟩ := by
  interval_cases k <;> rfl

theorem toNat_ofNat_byte {value : Nat} (small : value < 256) : (UInt8.ofNat value).toNat = value :=
  UInt8.toNat_ofNat_of_lt' small

theorem ofNat_byte_nonzero {value : Nat} (positive : 0 < value) (small : value < 256) :
    UInt8.ofNat value ≠ 0 := by
  intro zero
  have none : (UInt8.ofNat value).toNat = 0 := congrArg UInt8.toNat zero
  rw [toNat_ofNat_byte small] at none
  exact absurd none (Nat.ne_of_gt positive)

theorem feed_last (found : List Segment) (value seen : Nat) (low high : UInt8) (rest : Nat)
    (digit : rest < 64) (above : low.toNat ≤ 0x80 + rest) (below : 0x80 + rest ≤ high.toNat) :
    Reading.feed ⟨found, some ⟨value, seen, 1, low, high⟩⟩ (UInt8.ofNat (0x80 + rest)) =
      .settled (.scalar (Char.ofNat (value * 64 + rest)) :: found) := by
  have byte : (UInt8.ofNat (0x80 + rest)).toNat = 0x80 + rest := toNat_ofNat_byte (by omega)
  have inside : low ≤ UInt8.ofNat (0x80 + rest) ∧ UInt8.ofNat (0x80 + rest) ≤ high := by
    rw [UInt8.le_iff_toNat_le, UInt8.le_iff_toNat_le, byte]
    exact ⟨above, below⟩
  have kept : (0x80 + rest) % 64 = rest := by omega
  simp only [Reading.feed, inside, and_self, if_true, byte, kept, Reading.settled]

theorem feed_more (found : List Segment) (value seen missing : Nat) (low high : UInt8) (rest : Nat)
    (more : missing ≠ 1) (digit : rest < 64) (above : low.toNat ≤ 0x80 + rest)
    (below : 0x80 + rest ≤ high.toNat) :
    Reading.feed ⟨found, some ⟨value, seen, missing, low, high⟩⟩ (UInt8.ofNat (0x80 + rest)) =
      ⟨found, some ⟨value * 64 + rest, seen + 1, missing - 1, 0x80, 0xBF⟩⟩ := by
  have byte : (UInt8.ofNat (0x80 + rest)).toNat = 0x80 + rest := toNat_ofNat_byte (by omega)
  have inside : low ≤ UInt8.ofNat (0x80 + rest) ∧ UInt8.ofNat (0x80 + rest) ≤ high := by
    rw [UInt8.le_iff_toNat_le, UInt8.le_iff_toNat_le, byte]
    exact ⟨above, below⟩
  have kept : (0x80 + rest) % 64 = rest := by omega
  simp only [Reading.feed, inside, and_self, if_true, byte, kept, more, if_false]

theorem feed_first (found : List Segment) (byte : UInt8) (part : Unfinished)
    (opens : start byte = .first part) :
    Reading.feed (.settled found) byte = ⟨found, some part⟩ := by
  simp only [Reading.feed, Reading.settled, Reading.restart, opens]

theorem scalar_range (scalar : Char) :
    scalar.toNat < 0xD800 ∨ 0xDFFF < scalar.toNat ∧ scalar.toNat < 0x110000 := by
  have valid := scalar.valid
  simpa [UInt32.isValidChar, Nat.isValidChar] using valid

theorem feed_encodeChar (found : List Segment) (scalar : Char) :
    (encodeChar scalar).foldl Reading.feed (.settled found) = .settled (.scalar scalar :: found) := by
  have range := scalar_range scalar
  have same : Char.ofNat scalar.toNat = scalar := Char.ofNat_toNat scalar
  simp only [encodeChar]
  generalize scalar.toNat = value at range same
  split
  · rename_i one
    have byte : (UInt8.ofNat value).toNat = value := toNat_ofNat_byte (by omega)
    have ascii : UInt8.ofNat value < 0x80 := by
      rw [UInt8.lt_iff_toNat_lt, byte]
      exact one
    simp only [List.foldl_cons, List.foldl_nil, Reading.feed, Reading.settled, Reading.restart, start,
      ascii, if_true, byte, same]
  · split
    · rename_i one two
      rw [List.foldl_cons, feed_first _ _ _ (start_two (value / 64) (by omega) (by omega)),
        List.foldl_cons, feed_last _ _ _ _ _ (value % 64) (by omega) (by simp) (by simp; omega),
        List.foldl_nil, Nat.div_add_mod' value 64, same]
    · split
      · rename_i one two three
        have low : (if value / 4096 = 0 then 0xA0 else 0x80 : UInt8).toNat ≤
            0x80 + value / 64 % 64 := by
          split <;> simp
          omega
        have high : 0x80 + value / 64 % 64 ≤
            (if value / 4096 = 13 then 0x9F else 0xBF : UInt8).toNat := by
          split <;> simp <;> omega
        have whole : (value / 4096 * 64 + value / 64 % 64) * 64 + value % 64 = value := by omega
        rw [List.foldl_cons, feed_first _ _ _ (start_three (value / 4096) (by omega)),
          List.foldl_cons, feed_more _ _ _ _ _ _ _ (by decide) (by omega) low high,
          List.foldl_cons, feed_last _ _ _ _ _ (value % 64) (by omega) (by simp) (by simp; omega),
          List.foldl_nil, whole, same]
      · rename_i one two three
        have low : (if value / 262144 = 0 then 0x90 else 0x80 : UInt8).toNat ≤
            0x80 + value / 4096 % 64 := by
          split <;> simp
          omega
        have high : 0x80 + value / 4096 % 64 ≤
            (if value / 262144 = 4 then 0x8F else 0xBF : UInt8).toNat := by
          split <;> simp <;> omega
        have whole : ((value / 262144 * 64 + value / 4096 % 64) * 64 + value / 64 % 64) * 64 +
            value % 64 = value := by omega
        rw [List.foldl_cons, feed_first _ _ _ (start_four (value / 262144) (by omega)),
          List.foldl_cons, feed_more _ _ _ _ _ _ _ (by decide) (by omega) low high,
          List.foldl_cons,
          feed_more _ _ _ _ _ _ (value / 64 % 64) (by decide) (by omega) (by simp) (by simp; omega),
          List.foldl_cons, feed_last _ _ _ _ _ (value % 64) (by omega) (by simp) (by simp; omega),
          List.foldl_nil, whole, same]

theorem feed_encode (found : List Segment) (text : List Char) :
    (encode text).foldl Reading.feed (.settled found) =
      .settled ((text.map Segment.scalar).reverse ++ found) := by
  induction text generalizing found with
  | nil => simp [encode]
  | cons scalar rest ih =>
    have tail := ih (.scalar scalar :: found)
    simp only [encode] at tail
    simp [encode, List.foldl_append, feed_encodeChar, tail]

theorem mapM_scalar? (text : List Char) :
    (text.map Segment.scalar).mapM Segment.scalar? = some text := by
  rw [Effects.mapM_some_iff, List.forall₂_map_left_iff, List.forall₂_same]
  exact fun _ _ => rfl

theorem decode?_encode (text : List Char) : decode? (encode text) = some text := by
  have read : segments (encode text) = text.map Segment.scalar := by
    have all := feed_encode [] text
    simp only [Reading.settled] at all
    simp [segments, all, Reading.finish]
  rw [decode?, read, mapM_scalar?]

theorem feed_keeps (reading : Reading) (byte : UInt8) (segment : Segment)
    (present : segment ∈ reading.found) : segment ∈ (reading.feed byte).found := by
  unfold Reading.feed
  split
  · unfold Reading.restart
    split <;> simp [present]
  · dsimp only
    split
    · split <;> simp [present]
    · unfold Reading.restart
      split <;> simp [present]

theorem foldl_keeps (reading : Reading) (bytes : Bytes) (segment : Segment)
    (present : segment ∈ reading.found) : segment ∈ (bytes.foldl Reading.feed reading).found := by
  induction bytes generalizing reading with
  | nil => exact present
  | cons byte rest ih => exact ih _ (feed_keeps _ _ _ present)

theorem broken_of_surrogate (found : List Segment) (byte : UInt8) (rest : Bytes)
    (high : ¬ byte ≤ 0x9F) :
    .broken 1 ∈ ((0xED :: byte :: rest).foldl Reading.feed (.settled found)).found := by
  rw [List.foldl_cons, List.foldl_cons, feed_first _ _ ⟨0xD, 1, 2, 0x80, 0x9F⟩ rfl]
  apply foldl_keeps
  simp only [Reading.feed, high, and_false, if_false]
  unfold Reading.restart
  split <;> simp

theorem decode?_none_of_broken (bytes : Bytes) (width : Nat)
    (broken : .broken width ∈ (bytes.foldl Reading.feed (.settled [])).found) :
    decode? bytes = none := by
  have listed : Segment.broken width ∈ segments bytes := by
    unfold segments Reading.finish
    split <;> simpa [Reading.settled] using broken
  cases read : decode? bytes with
  | none => rfl
  | some text =>
    obtain ⟨scalar, _, none⟩ :=
      Effects.forall₂_partner (Effects.mapM_some_iff.mp read).flip listed
    cases none

-- What may follow a character's first bytes, and the number it then has.
inductive Completes : Unfinished → Bytes → Nat → Prop where
  | last (inside : part.low ≤ byte ∧ byte ≤ part.high) (one : part.missing = 1) :
      Completes part [byte] (part.value * 64 + byte.toNat % 64)
  | more (inside : part.low ≤ byte ∧ byte ≤ part.high) (some : part.missing ≠ 1)
      (rest : Completes ⟨part.value * 64 + byte.toNat % 64, part.seen + 1, part.missing - 1, 0x80,
        0xBF⟩ bytes total) :
      Completes part (byte :: bytes) total

theorem byte_within {low high byte : UInt8} (inside : low ≤ byte ∧ byte ≤ high) (above : 0x80 ≤ low)
    (below : high ≤ 0xBF) : ∃ digit, byte = UInt8.ofNat (0x80 + digit) ∧ byte.toNat % 64 = digit ∧
      low.toNat ≤ 0x80 + digit ∧ 0x80 + digit ≤ high.toNat ∧ digit < 64 := by
  simp only [UInt8.le_iff_toNat_le] at inside above below
  have low : 0x80 ≤ byte.toNat := Nat.le_trans above inside.1
  have high : byte.toNat ≤ 0xBF := Nat.le_trans inside.2 below
  have whole : 0x80 + byte.toNat % 64 = byte.toNat := by omega
  refine ⟨byte.toNat % 64, ?_, rfl, ?_⟩
  · rw [whole, UInt8.ofNat_toNat]
  · rw [whole]
    exact ⟨inside.1, inside.2, by omega⟩

theorem toNat_ofNat_char {value : Nat} (valid : value.isValidChar) :
    (Char.ofNat value).toNat = value := by
  rw [Char.ofNat, dif_pos valid]
  rfl

theorem encodeChar_two {lead digit : Nat} (low : 2 ≤ lead) (high : lead < 32) (small : digit < 64) :
    encodeChar (Char.ofNat (lead * 64 + digit)) =
      [UInt8.ofNat (0xC0 + lead), UInt8.ofNat (0x80 + digit)] := by
  have value : (Char.ofNat (lead * 64 + digit)).toNat = lead * 64 + digit := by
    rw [toNat_ofNat_char (.inl (by omega))]
  have first : (lead * 64 + digit) / 64 = lead := by omega
  have second : (lead * 64 + digit) % 64 = digit := by omega
  rw [encodeChar, value, if_neg (by omega), if_pos (by omega), first, second]

theorem encodeChar_three {lead middle digit : Nat} (high : lead < 16)
    (small : middle < 64 ∧ digit < 64) (long : lead = 0 → 0x20 ≤ middle)
    (scalar : lead = 13 → middle < 0x20) :
    encodeChar (Char.ofNat ((lead * 64 + middle) * 64 + digit)) =
      [UInt8.ofNat (0xE0 + lead), UInt8.ofNat (0x80 + middle), UInt8.ofNat (0x80 + digit)] := by
  have value : (Char.ofNat ((lead * 64 + middle) * 64 + digit)).toNat =
      (lead * 64 + middle) * 64 + digit := by
    have valid : ((lead * 64 + middle) * 64 + digit).isValidChar := by
      unfold Nat.isValidChar
      omega
    exact toNat_ofNat_char valid
  have first : ((lead * 64 + middle) * 64 + digit) / 4096 = lead := by omega
  have second : ((lead * 64 + middle) * 64 + digit) / 64 % 64 = middle := by omega
  have third : ((lead * 64 + middle) * 64 + digit) % 64 = digit := by omega
  rw [encodeChar, value, if_neg (by omega), if_neg (by omega), if_pos (by omega), first, second,
    third]

theorem encodeChar_four {lead upper middle digit : Nat} (high : lead < 5)
    (small : upper < 64 ∧ middle < 64 ∧ digit < 64)
    (long : lead = 0 → 0x10 ≤ upper) (scalar : lead = 4 → upper < 0x10) :
    encodeChar (Char.ofNat (((lead * 64 + upper) * 64 + middle) * 64 + digit)) =
      [UInt8.ofNat (0xF0 + lead), UInt8.ofNat (0x80 + upper), UInt8.ofNat (0x80 + middle),
        UInt8.ofNat (0x80 + digit)] := by
  have value : (Char.ofNat (((lead * 64 + upper) * 64 + middle) * 64 + digit)).toNat =
      ((lead * 64 + upper) * 64 + middle) * 64 + digit := by
    have valid : (((lead * 64 + upper) * 64 + middle) * 64 + digit).isValidChar := by
      unfold Nat.isValidChar
      omega
    exact toNat_ofNat_char valid
  have first : (((lead * 64 + upper) * 64 + middle) * 64 + digit) / 262144 = lead := by omega
  have second : (((lead * 64 + upper) * 64 + middle) * 64 + digit) / 4096 % 64 = upper := by omega
  have third : (((lead * 64 + upper) * 64 + middle) * 64 + digit) / 64 % 64 = middle := by omega
  have fourth : (((lead * 64 + upper) * 64 + middle) * 64 + digit) % 64 = digit := by omega
  rw [encodeChar, value, if_neg (by omega), if_neg (by omega), if_neg (by omega), first, second,
    third, fourth]

inductive Opens : UInt8 → Unfinished → Prop where
  | two (low : 2 ≤ lead) (high : lead < 32) :
      Opens (UInt8.ofNat (0xC0 + lead)) ⟨lead, 1, 1, 0x80, 0xBF⟩
  | three (high : lead < 16) : Opens (UInt8.ofNat (0xE0 + lead))
      ⟨lead, 1, 2, if lead = 0 then 0xA0 else 0x80, if lead = 13 then 0x9F else 0xBF⟩
  | four (high : lead < 5) : Opens (UInt8.ofNat (0xF0 + lead))
      ⟨lead, 1, 3, if lead = 0 then 0x90 else 0x80, if lead = 4 then 0x8F else 0xBF⟩

theorem start_alone {value : Nat} (small : value < 0xC2)
    (opens : start (UInt8.ofNat value) = .first part) : False := by
  have low : UInt8.ofNat value < 0xC2 := by
    rw [UInt8.lt_iff_toNat_lt, toNat_ofNat_byte (by omega)]
    exact small
  simp only [start, low, if_true] at opens
  split at opens <;> cases opens

theorem start_never (k : Nat) (high : k < 11) : start (UInt8.ofNat (0xF5 + k)) = .never := by
  interval_cases k <;> rfl

theorem start_opens (opens : start byte = .first part) : Opens byte part := by
  have size : byte.toNat < 256 := byte.toNat_lt
  have same : UInt8.ofNat byte.toNat = byte := UInt8.ofNat_toNat
  generalize byte.toNat = value at size same
  subst same
  by_cases two : value < 0xE0
  · obtain ⟨lead, rfl⟩ : ∃ lead, value = 0xC0 + lead :=
      Nat.exists_eq_add_of_le (Nat.le_of_not_lt fun alone => start_alone (by omega) opens)
    have low : 2 ≤ lead := Nat.le_of_not_lt fun alone => start_alone (by omega) opens
    rw [start_two lead low (by omega)] at opens
    cases opens
    exact .two low (by omega)
  by_cases three : value < 0xF0
  · obtain ⟨lead, rfl⟩ := Nat.exists_eq_add_of_le (Nat.le_of_not_lt two)
    rw [start_three lead (by omega)] at opens
    cases opens
    exact .three (by omega)
  by_cases four : value < 0xF5
  · obtain ⟨lead, rfl⟩ := Nat.exists_eq_add_of_le (Nat.le_of_not_lt three)
    rw [start_four lead (by omega)] at opens
    cases opens
    exact .four (by omega)
  · obtain ⟨lead, rfl⟩ := Nat.exists_eq_add_of_le (Nat.le_of_not_lt four)
    rw [start_never lead (by omega)] at opens
    cases opens

theorem start_whole (whole : start byte = .whole scalar) : [byte] = encodeChar scalar := by
  unfold start at whole
  split at whole
  · rename_i ascii
    cases whole
    rw [UInt8.lt_iff_toNat_lt] at ascii
    have small : byte.toNat < 0x80 := ascii
    rw [encodeChar, toNat_ofNat_char (.inl (by omega)), if_pos small, UInt8.ofNat_toNat]
  · repeat' split at whole
    all_goals cases whole

theorem completes_one {value seen : Nat} {low high : UInt8}
    (done : Completes ⟨value, seen, 1, low, high⟩ bytes total) : ∃ byte, bytes = [byte] ∧
      (low ≤ byte ∧ byte ≤ high) ∧ total = value * 64 + byte.toNat % 64 := by
  cases done with
  | last inside one => exact ⟨_, rfl, inside, rfl⟩
  | more inside some rest => exact absurd rfl some

theorem completes_more {value seen missing : Nat} {low high : UInt8} (many : missing ≠ 1)
    (done : Completes ⟨value, seen, missing, low, high⟩ bytes total) : ∃ byte rest,
      bytes = byte :: rest ∧ (low ≤ byte ∧ byte ≤ high) ∧
      Completes ⟨value * 64 + byte.toNat % 64, seen + 1, missing - 1, 0x80, 0xBF⟩ rest total := by
  cases done with
  | last inside one => exact absurd one many
  | more inside some rest => exact ⟨_, _, rfl, inside, rest⟩

theorem Opens.encodes (opens : Opens byte part) (done : Completes part rest total) :
    byte :: rest = encodeChar (Char.ofNat total) := by
  cases opens with
  | two low high =>
    obtain ⟨last, rfl, inside, rfl⟩ := completes_one done
    obtain ⟨digit, same, rest, _, _, small⟩ := byte_within inside (by decide) (by decide)
    rw [rest, encodeChar_two low high small, same]
  | @three lead high =>
    obtain ⟨next, rest, rfl, inside, done⟩ := completes_more (by decide) done
    obtain ⟨last, rfl, behind, rfl⟩ := completes_one done
    obtain ⟨digit, same, rest, _, _, small⟩ := byte_within behind (by decide) (by decide)
    obtain ⟨middle, first, digits, above, below, fits⟩ :=
      byte_within inside (by split <;> decide) (by split <;> decide)
    rw [rest, digits, encodeChar_three high ⟨fits, small⟩ ?_ ?_, same, first]
    · rintro rfl
      rw [if_pos rfl] at above
      exact Nat.le_of_add_le_add_left above
    · rintro rfl
      rw [if_pos rfl] at below
      exact Nat.lt_of_add_lt_add_left (Nat.lt_succ_of_le below)
  | @four lead high =>
    obtain ⟨next, rest, rfl, inside, done⟩ := completes_more (by decide) done
    obtain ⟨third, rest, rfl, within, done⟩ := completes_more (by decide) done
    obtain ⟨last, rfl, behind, rfl⟩ := completes_one done
    obtain ⟨digit, same, rest, _, _, small⟩ := byte_within behind (by decide) (by decide)
    obtain ⟨middle, second, between, _, _, room⟩ := byte_within within (by decide) (by decide)
    obtain ⟨upper, first, digits, above, below, fits⟩ :=
      byte_within inside (by split <;> decide) (by split <;> decide)
    rw [rest, between, digits, encodeChar_four high ⟨fits, room, small⟩ ?_ ?_, same, second, first]
    · rintro rfl
      rw [if_pos rfl] at above
      exact Nat.le_of_add_le_add_left above
    · rintro rfl
      rw [if_pos rfl] at below
      exact Nat.lt_of_add_lt_add_left (Nat.lt_succ_of_le below)

-- The bytes behind the characters begin another one: whatever completes it makes them its form.
def Promised (pending : Bytes) (part : Unfinished) : Prop :=
  ∀ rest total, Completes part rest total → pending ++ rest = encodeChar (Char.ofNat total)

-- The bytes so far are the characters found, and the first bytes of the one being read.
inductive Spelled : Reading → Bytes → Prop where
  | between (text : List Char) : Spelled ⟨(text.map .scalar).reverse, none⟩ (encode text)
  | within (text : List Char) (promised : Promised pending part) :
      Spelled ⟨(text.map .scalar).reverse, some part⟩ (encode text ++ pending)

theorem scalars_concat (text : List Char) (scalar : Char) :
    Segment.scalar scalar :: (text.map .scalar).reverse =
      ((text ++ [scalar]).map .scalar).reverse := by
  simp

theorem encode_concat (text : List Char) (scalar : Char) :
    encode text ++ encodeChar scalar = encode (text ++ [scalar]) := by
  simp [encode]

theorem spelled_restart (text : List Char) (byte : UInt8) :
    (∃ width, .broken width ∈ (Reading.restart (text.map .scalar).reverse byte).found) ∨
      Spelled (Reading.restart (text.map .scalar).reverse byte) (encode text ++ [byte]) := by
  unfold Reading.restart
  split
  · rename_i scalar whole
    refine .inr ?_
    rw [scalars_concat, start_whole whole, encode_concat]
    exact .between _
  · rename_i part opens
    exact .inr (.within text fun rest total done => (start_opens opens).encodes done)
  · exact .inl ⟨1, List.mem_cons_self⟩

theorem Spelled.feed (held : Spelled reading bytes) (byte : UInt8) :
    (∃ width, .broken width ∈ (reading.feed byte).found) ∨
      Spelled (reading.feed byte) (bytes ++ [byte]) := by
  cases held with
  | between text => exact spelled_restart text byte
  | @within pending part text promised =>
    simp only [Reading.feed]
    split
    · rename_i inside
      split
      · rename_i one
        refine .inr ?_
        rw [scalars_concat, List.append_assoc, promised _ _ (.last inside one), encode_concat]
        exact .between _
      · rename_i some
        refine .inr ?_
        rw [List.append_assoc]
        refine .within text fun rest total done => ?_
        rw [List.append_assoc]
        exact promised _ _ (.more inside some done)
    · refine .inl ⟨part.seen, ?_⟩
      unfold Reading.restart
      split <;> simp

theorem Spelled.run (held : Spelled reading bytes) (rest : Bytes) :
    (∃ width, .broken width ∈ (rest.foldl Reading.feed reading).found) ∨
      Spelled (rest.foldl Reading.feed reading) (bytes ++ rest) := by
  induction rest generalizing reading bytes with
  | nil => exact .inr (by rwa [List.append_nil])
  | cons byte rest ih =>
    rcases held.feed byte with ⟨width, broken⟩ | held
    · exact .inl ⟨width, foldl_keeps _ rest _ broken⟩
    · rw [List.append_cons]
      exact ih held

theorem Spelled.finish (held : Spelled reading bytes)
    (read : reading.finish.mapM Segment.scalar? = some text) : bytes = encode text := by
  cases held with
  | between known =>
    rw [Reading.finish, List.reverse_reverse, mapM_scalar?] at read
    cases read
    rfl
  | @within pending part known promised =>
    have related := Effects.mapM_some_iff.mp read
    have cut : .cut part.seen ∈ Reading.finish ⟨(known.map .scalar).reverse, some part⟩ := by
      simp [Reading.finish]
    obtain ⟨scalar, _, none⟩ := Effects.forall₂_partner related.flip cut
    cases none

theorem decode?_some_iff : decode? bytes = some text ↔ bytes = encode text := by
  constructor
  · intro read
    rcases (Spelled.between []).run bytes with ⟨width, broken⟩ | held
    · rw [decode?_none_of_broken bytes width broken] at read
      cases read
    · exact held.finish read
  · rintro rfl
    exact decode?_encode text

end ClassRename.Utf8
