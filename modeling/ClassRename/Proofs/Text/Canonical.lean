import ClassRename.Proofs.Text.ModifiedUtf8

namespace ClassRename.ModifiedUtf8

inductive Shortest : Bytes → Prop where
  | single (group : Group [a] value) : Shortest [a]
  | zero : Shortest [0xC0, 0x80]
  | double (group : Group [a, b] value) (large : 0x80 ≤ value) : Shortest [a, b]
  | triple (group : Group [a, b, c] value) (large : 0x800 ≤ value) : Shortest [a, b, c]

inductive Overlong : Bytes → Prop where
  | double (group : Group [a, b] value) (some : value ≠ 0) (small : value < 0x80) : Overlong [a, b]
  | triple (group : Group [a, b, c] value) (small : value < 0x800) : Overlong [a, b, c]

def Canonical (bytes : Bytes) : Prop :=
  ∃ groups : List Bytes, bytes = groups.flatten ∧ ∀ group ∈ groups, Shortest group

def HasOverlong (bytes : Bytes) : Prop :=
  ∃ groups : List Bytes, bytes = groups.flatten ∧ (∀ group ∈ groups, ∃ value, Group group value) ∧
    ∃ group ∈ groups, Overlong group

-- Standard UTF-8 with a character that takes four bytes.
def HasFourBytes (bytes : Bytes) : Prop :=
  ∃ text, bytes = Utf8.encode text ∧ ∃ scalar ∈ text, 0x10000 ≤ scalar.toNat

theorem continuation_digit (next : isContinuation byte = true) :
    UInt8.ofNat (0x80 + byte.toNat % 64) = byte := by
  simp only [isContinuation, Bool.and_eq_true, decide_eq_true_eq, UInt8.le_iff_toNat_le,
    UInt8.lt_iff_toNat_lt] at next
  have range : 0x80 ≤ byte.toNat ∧ byte.toNat < 0xC0 := next
  have whole : 0x80 + byte.toNat % 64 = byte.toNat := by omega
  rw [whole, UInt8.ofNat_toNat]

theorem two_lead (lead : 0xC0 ≤ byte ∧ byte < 0xE0) :
    UInt8.ofNat (0xC0 + byte.toNat % 32) = byte := by
  rw [UInt8.le_iff_toNat_le, UInt8.lt_iff_toNat_lt] at lead
  have range : 0xC0 ≤ byte.toNat ∧ byte.toNat < 0xE0 := lead
  have whole : 0xC0 + byte.toNat % 32 = byte.toNat := by omega
  rw [whole, UInt8.ofNat_toNat]

theorem three_lead (lead : 0xE0 ≤ byte ∧ byte < 0xF0) :
    UInt8.ofNat (0xE0 + byte.toNat % 16) = byte := by
  rw [UInt8.le_iff_toNat_le, UInt8.lt_iff_toNat_lt] at lead
  have range : 0xE0 ≤ byte.toNat ∧ byte.toNat < 0xF0 := lead
  have whole : 0xE0 + byte.toNat % 16 = byte.toNat := by omega
  rw [whole, UInt8.ofNat_toNat]

theorem Group.value_eq (group : Group bytes value) (other : Group bytes number) :
    value = number := by
  cases group with
  | single | double | triple =>
    cases other
    rfl

theorem Shortest.group (shortest : Shortest bytes) : ∃ value, Group bytes value := by
  cases shortest with
  | single group | double group _ | triple group _ => exact ⟨_, group⟩
  | zero => exact ⟨_, .double (by decide) (by decide)⟩

theorem Shortest.not_overlong (shortest : Shortest bytes) : ¬ Overlong bytes := by
  intro overlong
  cases shortest with
  | single group => cases overlong
  | zero =>
    cases overlong with
    | double group some small =>
      cases group
      exact some (by decide)
  | double group large =>
    cases overlong with
    | double other some small =>
      rw [group.value_eq other] at large
      omega
  | triple group large =>
    cases overlong with
    | triple other small =>
      rw [group.value_eq other] at large
      omega

theorem Group.shortest_or (group : Group bytes value) : Shortest bytes ∨ Overlong bytes := by
  cases group with
  | single some ascii => exact .inl (.single (.single some ascii))
  | @double a b lead next =>
    rcases Nat.lt_or_ge (a.toNat % 32 * 64 + b.toNat % 64) 0x80 with small | large
    · rcases Nat.eq_zero_or_pos (a.toNat % 32 * 64 + b.toNat % 64) with zero | some
      · have none : a.toNat % 32 = 0 ∧ b.toNat % 64 = 0 := by omega
        rw [← two_lead lead, ← continuation_digit next, none.1, none.2]
        exact .inl .zero
      · exact .inr (.double (.double lead next) (Nat.ne_of_gt some) small)
    · exact .inl (.double (.double lead next) large)
  | @triple a b c lead next last =>
    rcases Nat.lt_or_ge (a.toNat % 16 * 4096 + b.toNat % 64 * 64 + c.toNat % 64) 0x800
      with small | large
    · exact .inr (.triple (.triple lead next last) small)
    · exact .inl (.triple (.triple lead next last) large)

def groupLength (lead : UInt8) : Nat := if lead < 0x80 then 1 else if lead < 0xE0 then 2 else 3

theorem Group.length_eq (group : Group bytes value) :
    ∃ lead rest, bytes = lead :: rest ∧ bytes.length = groupLength lead := by
  cases group with
  | single some ascii => exact ⟨_, _, rfl, by simp [groupLength, ascii]⟩
  | double lead next =>
    refine ⟨_, _, rfl, ?_⟩
    rw [groupLength, if_neg (not_ascii (by decide) lead.1), if_pos lead.2]
    rfl
  | triple lead next last =>
    refine ⟨_, _, rfl, ?_⟩
    rw [groupLength, if_neg (not_ascii (by decide) lead.1), if_neg (UInt8.not_lt.mpr lead.1)]
    rfl

theorem Group.low (group : Group bytes value) : ∀ byte ∈ bytes, byte < 0xF0 := by
  have continued : ∀ {byte : UInt8}, isContinuation byte = true → byte < 0xF0 := by
    intro byte next
    simp only [isContinuation, Bool.and_eq_true, decide_eq_true_eq] at next
    exact UInt8.lt_trans next.2 (by decide)
  cases group with
  | single some ascii => simpa using UInt8.lt_trans ascii (by decide)
  | double lead next => simpa using ⟨UInt8.lt_trans lead.2 (by decide), continued next⟩
  | triple lead next last => simpa using ⟨lead.2, continued next, continued last⟩

theorem Group.prefix_eq (group : Group left value) (other : Group right number)
    (same : left ++ rest = right ++ behind) : left = right ∧ rest = behind := by
  obtain ⟨first, tail, rfl, size⟩ := group.length_eq
  obtain ⟨second, more, rfl, length⟩ := other.length_eq
  obtain rfl : first = second := (List.cons.inj same).1
  exact List.append_inj same (size.trans length.symm)

theorem splits_unique {groups others : List Bytes}
    (split : ∀ group ∈ groups, ∃ value, Group group value)
    (again : ∀ group ∈ others, ∃ value, Group group value)
    (same : groups.flatten = others.flatten) : groups = others := by
  induction groups generalizing others with
  | nil =>
    cases others with
    | nil => rfl
    | cons other rest =>
      obtain ⟨value, group⟩ := again other List.mem_cons_self
      obtain ⟨lead, tail, rfl, _⟩ := group.length_eq
      cases same
  | cons group rest ih =>
    obtain ⟨value, first⟩ := split group List.mem_cons_self
    cases others with
    | nil =>
      obtain ⟨lead, tail, rfl, _⟩ := first.length_eq
      cases same
    | cons other behind =>
      obtain ⟨number, second⟩ := again other List.mem_cons_self
      obtain ⟨rfl, tail⟩ := first.prefix_eq second same
      rw [ih (List.forall_mem_of_forall_mem_cons split) (List.forall_mem_of_forall_mem_cons again)
        tail]

theorem encodeUnit_shortest (unit : UInt16) : Shortest (encodeUnit unit) := by
  have group := encodeUnit_group unit
  simp only [encodeUnit] at group ⊢
  generalize unit.toNat = value at group
  split at group
  · rename_i one
    rw [if_pos one]
    exact .single group
  · rename_i many
    rw [if_neg many]
    split at group
    · rename_i two
      rw [if_pos two]
      rcases Nat.lt_or_ge value 0x80 with small | large
      · obtain rfl : value = 0 := by omega
        exact .zero
      · exact .double group large
    · rename_i three
      rw [if_neg three]
      exact .triple group (Nat.le_of_not_lt three)

theorem Shortest.written (shortest : Shortest bytes) : ∃ unit, bytes = encodeUnit unit := by
  cases shortest with
  | @single a value group =>
    cases group with
    | single some ascii =>
      have low : 1 ≤ a.toNat ∧ a.toNat < 0x80 := by
        refine ⟨Nat.pos_of_ne_zero fun zero => some (UInt8.toNat_inj.mp zero), ?_⟩
        exact UInt8.lt_iff_toNat_lt.mp ascii
      refine ⟨UInt16.ofNat a.toNat, ?_⟩
      rw [encodeUnit, Utf16.toNat_ofNat_unit (by omega), if_pos low, UInt8.ofNat_toNat]
  | zero => exact ⟨0, by decide⟩
  | @double a b value group large =>
    cases group with
    | double lead next =>
      refine ⟨UInt16.ofNat (a.toNat % 32 * 64 + b.toNat % 64), ?_⟩
      have first : (a.toNat % 32 * 64 + b.toNat % 64) / 64 = a.toNat % 32 := by omega
      have second : (a.toNat % 32 * 64 + b.toNat % 64) % 64 = b.toNat % 64 := by omega
      rw [encodeUnit, Utf16.toNat_ofNat_unit (by omega), if_neg (by omega), if_pos (by omega), first,
        second, two_lead lead, continuation_digit next]
  | @triple a b c value group large =>
    cases group with
    | triple lead next last =>
      refine ⟨UInt16.ofNat (a.toNat % 16 * 4096 + b.toNat % 64 * 64 + c.toNat % 64), ?_⟩
      generalize whole : a.toNat % 16 * 4096 + b.toNat % 64 * 64 + c.toNat % 64 = value at large
      have first : value / 4096 = a.toNat % 16 := by omega
      have second : value / 64 % 64 = b.toNat % 64 := by omega
      have third : value % 64 = c.toNat % 64 := by omega
      rw [encodeUnit, Utf16.toNat_ofNat_unit (by omega), if_neg (by omega), if_neg (by omega), first,
        second, third, three_lead lead, continuation_digit next, continuation_digit last]

theorem canonical_iff :
    Canonical bytes ↔ ∃ units : List UInt16, bytes = units.flatMap encodeUnit := by
  constructor
  · rintro ⟨groups, rfl, each⟩
    obtain ⟨units, written⟩ :=
      Effects.forall₂_exists fun group member => (each group member).written
    rw [← List.forall₂_map_right_iff (f := encodeUnit) (R := Eq), List.forall₂_eq_eq_eq] at written
    exact ⟨units, by rw [written, List.flatMap_def]⟩
  · rintro ⟨units, rfl⟩
    refine ⟨units.map encodeUnit, List.flatMap_def, ?_⟩
    intro group member
    obtain ⟨unit, _, rfl⟩ := List.mem_map.mp member
    exact encodeUnit_shortest unit

theorem grouped_cons {groups : List Bytes} (group : Group bytes value)
    (others : ∀ group ∈ groups, ∃ value, Group group value) :
    ∀ group ∈ bytes :: groups, ∃ value, Group group value :=
  List.forall_mem_cons.mpr ⟨⟨value, group⟩, others⟩

theorem unitsFrom_sound (read : unitsFrom offset found bytes = .ok result) :
    ∃ groups : List Bytes, bytes = groups.flatten ∧
      ∀ group ∈ groups, ∃ value, Group group value := by
  fun_induction unitsFrom offset found bytes with
  | case1 => exact ⟨[], rfl, by simp⟩
  | case3 offset found a rest ascii some ih =>
    obtain ⟨groups, rfl, each⟩ := ih read
    exact ⟨[a] :: groups, rfl, grouped_cons (.single some ascii) each⟩
  | case5 offset found a many lead b rest next ih =>
    obtain ⟨groups, rfl, each⟩ := ih read
    exact ⟨[a, b] :: groups, rfl, grouped_cons (.double lead next) each⟩
  | case9 offset found a many more lead b c rest next last ih =>
    obtain ⟨groups, rfl, each⟩ := ih read
    exact ⟨[a, b, c] :: groups, rfl, grouped_cons (.triple lead next last) each⟩
  | case2 | case4 | case6 | case7 | case8 | case10 | case11 | case12 => cases read

theorem decodeUnits_ok (read : decodeUnits bytes = .ok text) :
    units bytes = .ok (Utf16.encode text.toList) := by
  unfold decodeUnits at read
  cases found : units bytes with
  | error fault =>
    rw [found] at read
    cases read
  | ok given =>
    simp only [found, bind, Except.bind] at read
    split at read
    · rename_i scalars decoded
      cases read
      rw [String.toList_ofList, Utf16.decode?_some_iff.mp decoded]
    · cases read

-- A text is read from standard UTF-8 without a zero, or from the groups of its units.
theorem decode_ok (read : decode bytes = .ok text) :
    (bytes = Utf8.encode text.toList ∧ '\x00' ∉ text.toList) ∨
      units bytes = .ok (Utf16.encode text.toList) := by
  unfold decode at read
  split at read
  · rename_i scalars standard
    split at read
    · exact .inr (decodeUnits_ok read)
    · rename_i noZero
      cases read
      rw [String.toList_ofList]
      exact .inl ⟨Utf8.decode?_some_iff.mp standard,
        fun zero => noZero (List.contains_iff_mem.mpr zero)⟩
  · exact .inr (decodeUnits_ok read)

theorem encode_canonical (text : String) : Canonical (encode text) :=
  canonical_iff.mpr ⟨_, encode_eq_units text⟩

theorem Canonical.low (canonical : Canonical bytes) : ∀ byte ∈ bytes, byte < 0xF0 := by
  obtain ⟨groups, rfl, each⟩ := canonical
  intro byte member
  obtain ⟨group, present, inside⟩ := List.mem_flatten.mp member
  obtain ⟨value, grouped⟩ := (each group present).group
  exact grouped.low byte inside

theorem HasFourBytes.not_canonical (four : HasFourBytes bytes) : ¬ Canonical bytes := by
  rintro canonical
  obtain ⟨text, rfl, scalar, member, large⟩ := four
  have range := Utf8.scalar_range scalar
  have lead : UInt8.ofNat (0xF0 + scalar.toNat / 262144) ∈ Utf8.encode text := by
    refine List.mem_flatMap.mpr ⟨scalar, member, ?_⟩
    rw [Utf8.encodeChar, if_neg (by omega), if_neg (by omega), if_neg (by omega)]
    exact List.mem_cons_self
  have low := canonical.low _ lead
  rw [UInt8.lt_iff_toNat_lt, Utf8.toNat_ofNat_byte (by omega)] at low
  exact absurd low (by simp)

theorem HasOverlong.not_canonical (long : HasOverlong bytes) : ¬ Canonical bytes := by
  rintro ⟨shortest, same, each⟩
  obtain ⟨groups, rfl, grouped, group, member, overlong⟩ := long
  obtain rfl := splits_unique grouped (fun group member => (each group member).group) same
  exact (each group member).not_overlong overlong

theorem plain_or_four {text : List Char} (noZero : '\x00' ∉ text) :
    text.all isPlain = true ∨ HasFourBytes (Utf8.encode text) := by
  cases plain : text.all isPlain with
  | true => exact .inl rfl
  | false =>
    obtain ⟨scalar, member, special⟩ := List.all_eq_false.mp plain
    refine .inr ⟨text, rfl, scalar, member, ?_⟩
    have visible : scalar.toNat ≠ 0 := by
      intro zero
      rw [← Char.ofNat_toNat scalar, zero] at member
      exact noZero member
    simpa [isPlain, visible] using special

-- Bytes that read as a text are the ones written for it, or they have a group that is too long, or
-- they are standard UTF-8 with a character of four bytes.
theorem encode_or (read : decode bytes = .ok text) :
    encode text = bytes ∨ HasOverlong bytes ∨ HasFourBytes bytes := by
  rcases decode_ok read with ⟨rfl, noZero⟩ | grouped
  · rcases plain_or_four noZero with plain | four
    · exact .inl (by rw [encode, if_pos plain])
    · exact .inr (.inr four)
  · obtain ⟨groups, rfl, each⟩ := unitsFrom_sound grouped
    by_cases long : ∃ group ∈ groups, Overlong group
    · exact .inr (.inl ⟨groups, rfl, each, long⟩)
    · have shortest : Canonical groups.flatten := by
        refine ⟨groups, rfl, fun group member => ?_⟩
        obtain ⟨value, known⟩ := each group member
        exact known.shortest_or.resolve_right fun overlong => long ⟨group, member, overlong⟩
      obtain ⟨written, same⟩ := canonical_iff.mp shortest
      have back : units groups.flatten = .ok written := by
        rw [same]
        exact unitsFrom_flatMap 0 [] written
      rw [back] at grouped
      cases grouped
      exact .inl (by rw [encode_eq_units, same])

theorem encode_eq_iff (read : decode bytes = .ok text) :
    encode text = bytes ↔ Canonical bytes := by
  constructor
  · rintro rfl
    exact encode_canonical text
  · intro canonical
    rcases encode_or read with same | long | four
    · exact same
    · exact absurd canonical long.not_canonical
    · exact absurd canonical four.not_canonical

theorem encode_ne_iff (read : decode bytes = .ok text) :
    encode text ≠ bytes ↔ HasOverlong bytes ∨ HasFourBytes bytes := by
  constructor
  · exact (encode_or read).resolve_left
  · intro other same
    have canonical := (encode_eq_iff read).mp same
    rcases other with long | four
    · exact long.not_canonical canonical
    · exact four.not_canonical canonical

end ClassRename.ModifiedUtf8
