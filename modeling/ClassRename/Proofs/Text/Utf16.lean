import ClassRename.Proofs.Text.Utf8
import ClassRename.Text.Utf16

namespace ClassRename.Utf16

theorem toNat_ofNat_unit {value : Nat} (small : value < 65536) :
    (UInt16.ofNat value).toNat = value := by
  rw [UInt16.toNat_ofNat', Nat.mod_eq_of_lt (by omega)]

theorem feed_pair (found : List (Option Char)) (first second : UInt16)
    (lead : isLead first = true) (trail : isTrail second = true) :
    [first, second].foldl Reading.feed ⟨found, none⟩ = ⟨some (joined first second) :: found, none⟩ := by
  simp [Reading.feed, Reading.restart, lead, trail]

theorem feed_encodeChar (found : List (Option Char)) (scalar : Char) :
    (encodeChar scalar).foldl Reading.feed ⟨found, none⟩ = ⟨some scalar :: found, none⟩ := by
  have range := Utf8.scalar_range scalar
  have same : Char.ofNat scalar.toNat = scalar := Char.ofNat_toNat scalar
  simp only [encodeChar]
  generalize scalar.toNat = value at range same
  split
  · rename_i short
    have unit : (UInt16.ofNat value).toNat = value := toNat_ofNat_unit short
    have noLead : isLead (UInt16.ofNat value) = false := by
      simp [isLead, UInt16.le_iff_toNat_le, UInt16.lt_iff_toNat_lt, unit]
      omega
    have noTrail : isTrail (UInt16.ofNat value) = false := by
      simp [isTrail, UInt16.le_iff_toNat_le, UInt16.lt_iff_toNat_lt, unit]
      omega
    simp [Reading.feed, Reading.restart, noLead, noTrail, unit, same]
  · rename_i long
    have leadUnit : (UInt16.ofNat (0xD800 + (value - 0x10000) / 0x400)).toNat = _ :=
      toNat_ofNat_unit (by omega)
    have trailUnit : (UInt16.ofNat (0xDC00 + (value - 0x10000) % 0x400)).toNat = _ :=
      toNat_ofNat_unit (by omega)
    have lead : isLead (UInt16.ofNat (0xD800 + (value - 0x10000) / 0x400)) = true := by
      simp [isLead, UInt16.le_iff_toNat_le, UInt16.lt_iff_toNat_lt]
      omega
    have trail : isTrail (UInt16.ofNat (0xDC00 + (value - 0x10000) % 0x400)) = true := by
      simp [isTrail, UInt16.le_iff_toNat_le, UInt16.lt_iff_toNat_lt]
      omega
    have whole : 0x10000 + (0xD800 + (value - 0x10000) / 0x400 - 0xD800) * 0x400 +
        (0xDC00 + (value - 0x10000) % 0x400 - 0xDC00) = value := by omega
    rw [feed_pair _ _ _ lead trail, joined, leadUnit, trailUnit, whole, same]

theorem feed_encode (found : List (Option Char)) (text : List Char) :
    (encode text).foldl Reading.feed ⟨found, none⟩ = ⟨(text.map some).reverse ++ found, none⟩ := by
  induction text generalizing found with
  | nil => simp [encode]
  | cons scalar rest ih =>
    have tail := ih (some scalar :: found)
    simp only [encode] at tail
    simp [encode, List.foldl_append, feed_encodeChar, tail]

theorem mapM_found (text : List Char) : (text.map some).mapM id = some text := by
  rw [Effects.mapM_some_iff, List.forall₂_map_left_iff, List.forall₂_same]
  exact fun _ _ => rfl

theorem decode?_encode (text : List Char) : decode? (encode text) = some text := by
  have read : scalars (encode text) = text.map some := by
    simp [scalars, feed_encode, Reading.finish]
  rw [decode?, read, mapM_found]

theorem feed_keeps (reading : Reading) (unit : UInt16) (present : none ∈ reading.found) :
    none ∈ (reading.feed unit).found := by
  have restart : ∀ found, none ∈ found → none ∈ (Reading.restart found unit).found := by
    intro found present
    unfold Reading.restart
    split
    · exact present
    · split <;> exact List.mem_cons_of_mem _ present
  unfold Reading.feed
  split
  · exact restart _ present
  · split
    · exact List.mem_cons_of_mem _ present
    · exact restart _ (List.mem_cons_of_mem _ present)

theorem foldl_keeps (reading : Reading) (units : List UInt16) (present : none ∈ reading.found) :
    none ∈ (units.foldl Reading.feed reading).found := by
  induction units generalizing reading with
  | nil => exact present
  | cons unit rest ih => exact ih _ (feed_keeps _ _ present)

-- The units so far are the characters found, and a leading surrogate that waits for its partner.
inductive Spelled : Reading → List UInt16 → Prop where
  | between (text : List Char) : Spelled ⟨(text.map some).reverse, none⟩ (encode text)
  | within (text : List Char) (lead : isLead unit = true) :
      Spelled ⟨(text.map some).reverse, some unit⟩ (encode text ++ [unit])

theorem scalars_concat (text : List Char) (scalar : Char) :
    some scalar :: (text.map some).reverse = ((text ++ [scalar]).map some).reverse := by
  simp

theorem encode_concat (text : List Char) (scalar : Char) :
    encode text ++ encodeChar scalar = encode (text ++ [scalar]) := by
  simp [encode]

theorem encodeChar_single (noLead : isLead unit = false) (noTrail : isTrail unit = false) :
    encodeChar (Char.ofNat unit.toNat) = [unit] := by
  have small : unit.toNat < 65536 := unit.toNat_lt
  simp only [isLead, isTrail, Bool.and_eq_false_iff, decide_eq_false_iff_not, UInt16.le_iff_toNat_le,
    UInt16.lt_iff_toNat_lt] at noLead noTrail
  have outside : unit.toNat < 0xD800 ∨ 0xDFFF < unit.toNat := by
    simp at noLead noTrail
    omega
  have value : (Char.ofNat unit.toNat).toNat = unit.toNat :=
    Utf8.toNat_ofNat_char (by unfold Nat.isValidChar; omega)
  rw [encodeChar, value, if_pos small, UInt16.ofNat_toNat]

theorem encodeChar_joined (lead : isLead first = true) (trail : isTrail second = true) :
    encodeChar (joined first second) = [first, second] := by
  simp only [isLead, isTrail, Bool.and_eq_true, decide_eq_true_eq, UInt16.le_iff_toNat_le,
    UInt16.lt_iff_toNat_lt] at lead trail
  have upper : 0xD800 ≤ first.toNat ∧ first.toNat < 0xDC00 := lead
  have lower : 0xDC00 ≤ second.toNat ∧ second.toNat < 0xE000 := trail
  have high : 0xD800 + ((first.toNat - 0xD800) * 0x400 + (second.toNat - 0xDC00)) / 0x400 =
      first.toNat := by omega
  have low : 0xDC00 + ((first.toNat - 0xD800) * 0x400 + (second.toNat - 0xDC00)) % 0x400 =
      second.toNat := by omega
  have value : (joined first second).toNat =
      0x10000 + ((first.toNat - 0xD800) * 0x400 + (second.toNat - 0xDC00)) := by
    rw [joined, Nat.add_assoc]
    exact Utf8.toNat_ofNat_char (by unfold Nat.isValidChar; omega)
  rw [encodeChar, value, if_neg (by omega), Nat.add_sub_cancel_left, high, low, UInt16.ofNat_toNat,
    UInt16.ofNat_toNat]

theorem spelled_restart (text : List Char) (unit : UInt16) :
    none ∈ (Reading.restart (text.map some).reverse unit).found ∨
      Spelled (Reading.restart (text.map some).reverse unit) (encode text ++ [unit]) := by
  unfold Reading.restart
  cases lead : isLead unit with
  | true => exact .inr (.within text lead)
  | false =>
    cases trail : isTrail unit with
    | true => exact .inl List.mem_cons_self
    | false =>
      refine .inr ?_
      rw [← encodeChar_single lead trail, encode_concat, scalars_concat]
      exact .between _

theorem Spelled.feed (held : Spelled reading units) (unit : UInt16) :
    none ∈ (reading.feed unit).found ∨ Spelled (reading.feed unit) (units ++ [unit]) := by
  cases held with
  | between text => exact spelled_restart text unit
  | @within first text lead =>
    simp only [Reading.feed]
    split
    · rename_i trail
      refine .inr ?_
      rw [scalars_concat, List.append_assoc, List.singleton_append, ← encodeChar_joined lead trail,
        encode_concat]
      exact .between _
    · refine .inl ?_
      unfold Reading.restart
      split <;> simp

theorem Spelled.run (held : Spelled reading units) (rest : List UInt16) :
    none ∈ (rest.foldl Reading.feed reading).found ∨
      Spelled (rest.foldl Reading.feed reading) (units ++ rest) := by
  induction rest generalizing reading units with
  | nil => exact .inr (by rwa [List.append_nil])
  | cons unit rest ih =>
    rcases held.feed unit with unpaired | held
    · exact .inl (foldl_keeps _ rest unpaired)
    · rw [List.append_cons]
      exact ih held

theorem mapM_unpaired {found : List (Option Char)} (unpaired : none ∈ found) :
    found.mapM id = none := by
  cases read : found.mapM id with
  | none => rfl
  | some text =>
    obtain ⟨scalar, _, impossible⟩ :=
      Effects.forall₂_partner (Effects.mapM_some_iff.mp read).flip unpaired
    cases impossible

theorem decode?_none_of_unpaired (unpaired : none ∈ (units.foldl Reading.feed ⟨[], none⟩).found) :
    decode? units = none := by
  refine mapM_unpaired ?_
  unfold scalars Reading.finish
  split <;> simp [unpaired]

theorem Spelled.finish (held : Spelled reading units) (read : reading.finish.mapM id = some text) :
    units = encode text := by
  cases held with
  | between known =>
    rw [Reading.finish, List.reverse_reverse, mapM_found] at read
    cases read
    rfl
  | @within unit known lead =>
    rw [mapM_unpaired (by simp [Reading.finish])] at read
    cases read

theorem decode?_some_iff : decode? units = some text ↔ units = encode text := by
  constructor
  · intro read
    rcases (Spelled.between []).run units with unpaired | held
    · rw [decode?_none_of_unpaired unpaired] at read
      cases read
    · exact held.finish read
  · rintro rfl
    exact decode?_encode text

end ClassRename.Utf16
