import ClassRename.Constant
import ClassRename.Proofs.Text.Utf16

namespace ClassRename

namespace ModifiedUtf8

-- One group of bytes and the number in it, which a shorter group may hold as well.
inductive Group : Bytes → Nat → Prop where
  | single (some : a ≠ 0) (ascii : a < 0x80) : Group [a] a.toNat
  | double (lead : 0xC0 ≤ a ∧ a < 0xE0) (next : isContinuation b = true) :
      Group [a, b] (a.toNat % 32 * 64 + b.toNat % 64)
  | triple (lead : 0xE0 ≤ a ∧ a < 0xF0) (next : isContinuation b = true)
      (last : isContinuation c = true) :
      Group [a, b, c] (a.toNat % 16 * 4096 + b.toNat % 64 * 64 + c.toNat % 64)

theorem not_ascii {a low : UInt8} (above : 0x80 ≤ low) (lead : low ≤ a) : ¬ a < 0x80 :=
  UInt8.not_lt.mpr (UInt8.le_trans above lead)

theorem unitsFrom_group (group : Group bytes value) (offset : Nat) (found : List UInt16)
    (rest : Bytes) : unitsFrom offset found (bytes ++ rest) =
      unitsFrom (offset + bytes.length) (UInt16.ofNat value :: found) rest := by
  cases group with
  | single some ascii =>
    rw [List.singleton_append, unitsFrom.eq_def]
    simp only [ascii, if_true, some, if_false, List.length_singleton]
  | double lead next =>
    rw [List.cons_append, List.singleton_append, unitsFrom,
      if_neg (not_ascii (by decide) lead.1), if_pos lead]
    simp only [next, if_true, List.length_cons, List.length_nil]
  | @triple a b c lead next last =>
    have longer : ¬ (0xC0 ≤ a ∧ a < 0xE0) := fun shorter => UInt8.not_lt.mpr lead.1 shorter.2
    rw [List.cons_append, List.cons_append, List.singleton_append, unitsFrom,
      if_neg (not_ascii (by decide) lead.1), if_neg longer, if_pos lead]
    simp only [next, last, if_true, List.length_cons, List.length_nil]

theorem continuation_ofNat (digit : Nat) (low : digit < 64) :
    isContinuation (UInt8.ofNat (0x80 + digit)) = true ∧
      (UInt8.ofNat (0x80 + digit)).toNat % 64 = digit := by
  have byte : (UInt8.ofNat (0x80 + digit)).toNat = 0x80 + digit := Utf8.toNat_ofNat_byte (by omega)
  refine ⟨?_, by omega⟩
  simp [isContinuation, UInt8.le_iff_toNat_le, UInt8.lt_iff_toNat_lt]
  omega

theorem lead_ofNat (base value high : Nat) (low : value < high) (fits : base + high < 256) :
    UInt8.ofNat base ≤ UInt8.ofNat (base + value) ∧
      UInt8.ofNat (base + value) < UInt8.ofNat (base + high) := by
  rw [UInt8.le_iff_toNat_le, UInt8.lt_iff_toNat_lt, Utf8.toNat_ofNat_byte (by omega),
    Utf8.toNat_ofNat_byte (by omega), Utf8.toNat_ofNat_byte (by omega)]
  omega

theorem encodeUnit_group (unit : UInt16) : Group (encodeUnit unit) unit.toNat := by
  have small : unit.toNat < 65536 := unit.toNat_lt
  simp only [encodeUnit]
  generalize unit.toNat = value at small
  split
  · rename_i one
    have byte : (UInt8.ofNat value).toNat = value := Utf8.toNat_ofNat_byte (by omega)
    have ascii : UInt8.ofNat value < 0x80 := by
      rw [UInt8.lt_iff_toNat_lt, byte]
      exact one.2
    have group := Group.single (Utf8.ofNat_byte_nonzero one.1 (by omega)) ascii
    rwa [byte] at group
  · split
    · obtain ⟨next, low⟩ := continuation_ofNat (value % 64) (by omega)
      have group := Group.double (lead_ofNat 0xC0 (value / 64) 0x20 (by omega) (by decide)) next
      have lead : (UInt8.ofNat (0xC0 + value / 64)).toNat % 32 = value / 64 := by
        rw [Utf8.toNat_ofNat_byte (by omega)]
        omega
      rwa [lead, low, Nat.div_add_mod'] at group
    · obtain ⟨next, middle⟩ := continuation_ofNat (value / 64 % 64) (by omega)
      obtain ⟨last, low⟩ := continuation_ofNat (value % 64) (by omega)
      have group :=
        Group.triple (lead_ofNat 0xE0 (value / 4096) 0x10 (by omega) (by decide)) next last
      have lead : (UInt8.ofNat (0xE0 + value / 4096)).toNat % 16 = value / 4096 := by
        rw [Utf8.toNat_ofNat_byte (by omega)]
        omega
      have whole : value / 4096 * 4096 + value / 64 % 64 * 64 + value % 64 = value := by omega
      rwa [lead, middle, low, whole] at group

theorem unitsFrom_encodeUnit (offset : Nat) (found : List UInt16) (unit : UInt16) (rest : Bytes) :
    unitsFrom offset found (encodeUnit unit ++ rest) =
      unitsFrom (offset + (encodeUnit unit).length) (unit :: found) rest := by
  rw [unitsFrom_group (encodeUnit_group unit), UInt16.ofNat_toNat]

theorem unitsFrom_flatMap (offset : Nat) (found units : List UInt16) :
    unitsFrom offset found (units.flatMap encodeUnit) = .ok (found.reverse ++ units) := by
  induction units generalizing offset found with
  | nil => simp [unitsFrom]
  | cons unit rest ih => simp [unitsFrom_encodeUnit, ih]

theorem decodeUnits_encode (scalars : List Char) :
    decodeUnits ((Utf16.encode scalars).flatMap encodeUnit) = .ok (String.ofList scalars) := by
  have read : units ((Utf16.encode scalars).flatMap encodeUnit) = .ok (Utf16.encode scalars) :=
    unitsFrom_flatMap 0 [] _
  simp only [decodeUnits, read]
  simp [Utf16.decode?_encode, bind, Except.bind]

theorem encode_plain (scalar : Char) (plain : isPlain scalar = true) :
    (Utf16.encodeChar scalar).flatMap encodeUnit = Utf8.encodeChar scalar := by
  have range : scalar.toNat ≠ 0 ∧ scalar.toNat < 0x10000 := by simpa [isPlain] using plain
  have unit := Utf16.toNat_ofNat_unit range.2
  have positive : 1 ≤ scalar.toNat := by omega
  simp only [Utf16.encodeChar, Utf8.encodeChar, range.2, if_true, List.flatMap_singleton, encodeUnit,
    unit, positive, true_and]

theorem encodeUnit_nonzero (unit : UInt16) : ∀ byte ∈ encodeUnit unit, byte ≠ 0 := by
  have small : unit.toNat < 65536 := unit.toNat_lt
  simp only [encodeUnit]
  generalize unit.toNat = value at small
  split
  · rename_i one
    exact List.forall_mem_singleton.mpr (Utf8.ofNat_byte_nonzero one.1 (by omega))
  · split
    · simp only [List.forall_mem_cons, List.not_mem_nil, false_implies, implies_true, and_true]
      exact ⟨Utf8.ofNat_byte_nonzero (by omega) (by omega),
        Utf8.ofNat_byte_nonzero (by omega) (by omega)⟩
    · simp only [List.forall_mem_cons, List.not_mem_nil, false_implies, implies_true, and_true]
      exact ⟨Utf8.ofNat_byte_nonzero (by omega) (by omega),
        Utf8.ofNat_byte_nonzero (by omega) (by omega),
        Utf8.ofNat_byte_nonzero (by omega) (by omega)⟩

theorem encode_eq_units (text : String) :
    encode text = (Utf16.encode text.toList).flatMap encodeUnit := by
  cases plain : text.toList.all isPlain with
  | true =>
    have each : ∀ scalar ∈ text.toList, Utf8.encodeChar scalar =
        (Utf16.encodeChar scalar).flatMap encodeUnit := fun scalar member =>
      (encode_plain scalar (List.all_eq_true.mp plain scalar member)).symm
    simp only [encode, plain, if_true, Utf8.encode, Utf16.encode, List.flatMap_assoc]
    exact List.flatMap_congr each
  | false => simp only [encode, plain, Bool.false_eq_true, if_false]

theorem encode_nonzero (text : String) : ∀ byte ∈ encode text, byte ≠ 0 := by
  intro byte member
  rw [encode_eq_units] at member
  obtain ⟨unit, _, inside⟩ := List.mem_flatMap.mp member
  exact encodeUnit_nonzero unit byte inside

-- NUL starts with C0 and a pair of surrogates with ED followed by a byte from A0 on; neither
-- begins a character of standard UTF-8.
theorem broken_of_not_plain (found : List Utf8.Segment) (scalar : Char)
    (special : isPlain scalar = false) :
    .broken 1 ∈ (((Utf16.encodeChar scalar).flatMap encodeUnit).foldl Utf8.Reading.feed
      (.settled found)).found := by
  have range := Utf8.scalar_range scalar
  simp only [isPlain, Bool.and_eq_false_iff, decide_eq_false_iff_not] at special
  simp only [Utf16.encodeChar]
  generalize scalar.toNat = value at range special
  split
  · rename_i short
    have zero : value = 0 := by
      simp at special
      omega
    subst zero
    simp [encodeUnit, Utf8.Reading.feed, Utf8.Reading.settled, Utf8.Reading.restart, Utf8.start]
  · rename_i long
    generalize split : (value - 0x10000) / 0x400 = high
    have unit : (UInt16.ofNat (0xD800 + high)).toNat = 0xD800 + high :=
      Utf16.toNat_ofNat_unit (by omega)
    have first : UInt8.ofNat (0xE0 + (0xD800 + high) / 4096) = 0xED := by
      have lead : (0xD800 + high) / 4096 = 13 := by omega
      rw [lead]
      rfl
    have second : ¬ UInt8.ofNat (0x80 + (0xD800 + high) / 64 % 64) ≤ 0x9F := by
      rw [UInt8.le_iff_toNat_le, Utf8.toNat_ofNat_byte (by omega)]
      simp
      omega
    have bytes : encodeUnit (UInt16.ofNat (0xD800 + high)) =
        [0xED, UInt8.ofNat (0x80 + (0xD800 + high) / 64 % 64),
          UInt8.ofNat (0x80 + (0xD800 + high) % 64)] := by
      simp only [encodeUnit, unit, first]
      rw [if_neg (by omega), if_neg (by omega)]
    rw [List.flatMap_cons, bytes]
    exact Utf8.broken_of_surrogate _ _ _ second

theorem broken_of_special (found : List Utf8.Segment) (scalars : List Char)
    (special : scalars.all isPlain = false) :
    .broken 1 ∈ (((Utf16.encode scalars).flatMap encodeUnit).foldl Utf8.Reading.feed
      (.settled found)).found := by
  induction scalars generalizing found with
  | nil => simp at special
  | cons scalar rest ih =>
    simp only [Utf16.encode, List.flatMap_cons, List.flatMap_append, List.foldl_append]
    cases plain : isPlain scalar with
    | true =>
      rw [encode_plain scalar plain, Utf8.feed_encodeChar]
      exact ih _ (by simpa [plain] using special)
    | false => exact Utf8.foldl_keeps _ _ _ (broken_of_not_plain found scalar plain)

theorem decode_encode (text : String) : decode (encode text) = .ok text := by
  have same : String.ofList text.toList = text := String.ofList_toList
  cases plain : text.toList.all isPlain with
  | true =>
    have visible : text.toList.contains '\x00' = false := by
      rw [List.contains_eq_any_beq, List.any_eq_false]
      intro scalar present
      have nonzero := List.all_eq_true.mp plain scalar present
      intro zero
      rw [← beq_iff_eq.mp zero] at nonzero
      exact absurd nonzero (by decide)
    simp only [encode, decode, plain, if_true, Utf8.decode?_encode, visible, Bool.false_eq_true,
      if_false, same]
  | false =>
    have unread := Utf8.decode?_none_of_broken _ 1 (broken_of_special [] _ plain)
    simp only [encode, decode, plain, Bool.false_eq_true, if_false, unread, decodeUnits_encode, same]

end ModifiedUtf8

namespace EncodedText

@[simp] theorem text?_ofString (text : String) : (ofString text).text? = some text := by
  simp [text?, ofString, ModifiedUtf8.decode_encode, Except.toOption]

end EncodedText
end ClassRename
