import ClassRename.Cursor
import ClassRename.Proofs.Bytes
import ClassRename.Proofs.Effects

namespace ClassRename

structure Cursor.Passed (used : Bytes) (before after : Cursor) : Prop where
  rest : before.rest = used ++ after.rest
  data : after.data = before.data
  position : after.position = before.position + used.length

namespace Cursor

theorem Passed.refl (cursor : Cursor) : Passed [] cursor cursor := ⟨rfl, rfl, rfl⟩

theorem Passed.nil (passed : Passed [] before after) : before = after := by
  obtain ⟨rest, data, position⟩ := passed
  cases before
  cases after
  simp_all

theorem Passed.trans (first : Passed left before middle) (second : Passed right middle after) :
    Passed (left ++ right) before after := by
  refine ⟨?_, second.data.trans first.data, ?_⟩
  · rw [first.rest, second.rest, List.append_assoc]
  · rw [second.position, first.position, List.length_append, Nat.add_assoc]

theorem Passed.congr (passed : Passed left before after) (same : left = right) :
    Passed right before after := same ▸ passed

theorem Passed.length (passed : Passed used before after) :
    before.rest.length = used.length + after.rest.length := by
  rw [passed.rest, List.length_append]

theorem Passed.after_eq (passed : Passed used before after) :
    after = ⟨before.data, before.position + used.length, after.rest⟩ := by
  obtain ⟨_, sameData, moved⟩ := passed
  rw [← sameData, ← moved]

theorem Passed.split (passed : Passed (left ++ right) before after) :
    ∃ middle, Passed left before middle ∧ Passed right middle after := by
  obtain ⟨rest, data, position⟩ := passed
  refine ⟨⟨before.data, before.position + left.length, right ++ after.rest⟩, ⟨?_, rfl, rfl⟩,
    ⟨rfl, data, ?_⟩⟩
  · rw [rest, List.append_assoc]
  · rw [position, List.length_append, Nat.add_assoc]

theorem Passed.first (passed : Passed (byte :: others) before after) :
    ∃ middle, Passed [byte] before middle ∧ Passed others middle after :=
  (passed.congr (List.singleton_append).symm).split

theorem Passed.whole {bytes : Bytes} (passed : Passed used (.start bytes) after)
    (ended : after.rest = []) : used = bytes := by
  have rest := passed.rest
  rw [ended, List.append_nil] at rest
  exact rest.symm

theorem passed_all (bytes : Bytes) : Passed bytes (.start bytes) ⟨bytes, bytes.length, []⟩ :=
  ⟨(List.append_nil _).symm, rfl, (Nat.zero_add _).symm⟩

end Cursor

namespace Scan
open Cursor Effects

@[simp] theorem fail_apply (flaw : Flaw) (cursor : Cursor) :
    (fail flaw : Scan α) cursor = .error (.malformed flaw) cursor := rfl

theorem lift_ok_iff {result : Except Error α} :
    lift result before = .ok value after ↔ result = .ok value ∧ before = after := by
  cases result with
  | error error =>
    constructor
    · intro lifted
      cases lifted
    · intro stated
      rcases stated with ⟨impossible, _⟩
      cases impossible
  | ok given =>
    constructor
    · intro lifted
      cases lifted
      exact ⟨rfl, rfl⟩
    · intro stated
      rcases stated with ⟨same, rfl⟩
      cases same
      rfl

@[simp] theorem lift_ok (value : α) (cursor : Cursor) :
    lift (.ok value) cursor = .ok value cursor := rfl

theorem lift_bind (first : Except Error α) (second : α → Except Error β) :
    lift (first >>= second) = (lift first >>= fun value => lift (second value)) := by
  cases first <;> rfl

theorem lift_pure (value : α) : lift (pure value) = pure value := rfl

theorem run_ok_iff {reader : Scan α} {bytes : Bytes} :
    reader.run bytes = .ok value ↔ ∃ after, reader (.start bytes) = .ok value after := by
  unfold run EStateM.run
  cases reader (.start bytes) <;> simp

theorem guard_ok_iff {condition : Prop} [Decidable condition] {flaw : Flaw} {stop : β → Scan α}
    {next : Scan α} :
    (if condition then (fail flaw : Scan β) >>= stop else next) before = .ok value after ↔
      ¬ condition ∧ next before = .ok value after := by
  by_cases refused : condition <;> simp [refused]

structure Codec (reader : Scan α) (write : α → Bytes) (Fits : α → Prop) : Prop where
  complete : ∀ value data position rest, Fits value →
    reader ⟨data, position, write value ++ rest⟩ =
      .ok value ⟨data, position + (write value).length, rest⟩
  sound : ∀ before value after, reader before = .ok value after →
    Fits value ∧ Passed (write value) before after

theorem Codec.read {reader : Scan α} {write : α → Bytes} {Fits : α → Prop}
    (codec : Codec reader write Fits) (fits : Fits value) (passed : Passed (write value) before after) :
    reader before = .ok value after := by
  have taken := codec.complete value before.data before.position after.rest fits
  rw [← passed.rest] at taken
  rw [passed.after_eq]
  exact taken

theorem Codec.run {reader : Scan α} {write : α → Bytes} {Fits : α → Prop}
    (codec : Codec reader write Fits) (fits : Fits value) : reader.run (write value) = .ok value :=
  run_ok_iff.mpr ⟨_, codec.read fits (passed_all _)⟩

theorem Codec.unique {reader : Scan α} {write : α → Bytes} {Fits : α → Prop}
    (codec : Codec reader write Fits) {first second : α} {left right : Bytes} (one : Fits first)
    (other : Fits second) (same : write first ++ left = write second ++ right) :
    first = second ∧ left = right := by
  have read := codec.complete first [] 0 left one
  have again := codec.complete second [] 0 right other
  rw [same, again] at read
  cases read
  exact ⟨rfl, rfl⟩

theorem bytes_codec (size : Nat) : Codec (bytes size) id (·.length = size) := by
  constructor
  · intro value data position rest width
    subst width
    simp [bytes, Bytes.split?_append]
  · intro before value after taken
    simp only [bytes, Bytes.split?_eq] at taken
    split at taken
    · rename_i first left split
      cases taken
      by_cases enough : size ≤ before.rest.length
      · simp only [enough, if_true, Option.some.injEq, Prod.mk.injEq] at split
        obtain ⟨rfl, rfl⟩ := split
        refine ⟨by simpa using enough, (List.take_append_drop _ _).symm, rfl, ?_⟩
        simp [enough]
      · simp [enough] at split
    · cases taken

-- A reader of a fixed number of bytes, whose values and byte strings determine each other.
theorem fixed_codec {width : Nat} {make : Nat → α} {write : α → Bytes}
    (sized : ∀ value, (write value).length = width)
    (back : ∀ value, make (Bytes.toNat (write value)) = value)
    (forth : ∀ given, given.length = width → write (make (Bytes.toNat given)) = given) :
    Codec (make <$> number width) write (fun _ => True) := by
  constructor
  · intro value data position rest _
    have taken := (bytes_codec width).complete (write value) data position rest (sized value)
    simp only [id] at taken
    simp [number, taken, back]
  · intro before value after read
    simp only [number, run_map_iff] at read
    obtain ⟨_, ⟨given, taken, rfl⟩, rfl⟩ := read
    obtain ⟨size, passed⟩ := (bytes_codec width).sound _ _ _ taken
    exact ⟨trivial, passed.congr (forth given size).symm⟩

theorem Codec.map {reader : Scan α} {write : α → Bytes} {change : α → β} {back : β → α}
    (codec : Codec reader write (fun _ => True)) (retract : ∀ value, change (back value) = value)
    (inverse : ∀ value, back (change value) = value) :
    Codec (change <$> reader) (fun value => write (back value)) (fun _ => True) := by
  constructor
  · intro value data position rest _
    simp [codec.complete (back value) data position rest trivial, retract]
  · intro before value after read
    obtain ⟨found, first, rfl⟩ := run_map_iff.mp read
    refine ⟨trivial, ?_⟩
    rw [inverse]
    exact (codec.sound _ _ _ first).2

theorem u8_codec : Codec u8 (fun value => [value]) (fun _ => True) := by
  refine fixed_codec (fun _ => rfl) ?_ ?_
  · intro value
    simp [Bytes.toNat]
  · intro given width
    obtain ⟨byte, rfl⟩ := List.length_eq_one_iff.mp width
    simp [Bytes.toNat]

theorem u16_codec : Codec u16 Bytes.u16 (fun _ => True) :=
  fixed_codec Bytes.length_u16 Bytes.u16_toNat Bytes.u16_ofBytes

theorem u32_codec : Codec u32 Bytes.u32 (fun _ => True) :=
  fixed_codec Bytes.length_u32 Bytes.u32_toNat Bytes.u32_ofBytes

theorem u64_codec : Codec u64 Bytes.u64 (fun _ => True) :=
  fixed_codec Bytes.length_u64 Bytes.u64_toNat Bytes.u64_ofBytes

theorem i16_codec : Codec i16 Bytes.i16 (fun _ => True) :=
  u16_codec.map (fun _ => rfl) (fun _ => rfl)

theorem i32_codec : Codec i32 Bytes.i32 (fun _ => True) :=
  u32_codec.map (fun _ => rfl) (fun _ => rfl)

theorem i64_codec : Codec i64 Bytes.i64 (fun _ => True) :=
  u64_codec.map (fun _ => rfl) (fun _ => rfl)

section Apply
variable (data : Bytes) (position : Nat) (rest : Bytes)

@[simp] theorem bytes_apply (value : Bytes) :
    bytes value.length ⟨data, position, value ++ rest⟩ =
      .ok value ⟨data, position + value.length, rest⟩ :=
  (bytes_codec _).complete value data position rest rfl

@[simp] theorem u8_apply (value : UInt8) :
    u8 ⟨data, position, value :: rest⟩ = .ok value ⟨data, position + 1, rest⟩ :=
  u8_codec.complete value data position rest trivial

@[simp] theorem u16_apply (value : UInt16) :
    u16 ⟨data, position, Bytes.u16 value ++ rest⟩ = .ok value ⟨data, position + 2, rest⟩ := by
  simpa using u16_codec.complete value data position rest trivial

@[simp] theorem u32_apply (value : UInt32) :
    u32 ⟨data, position, Bytes.u32 value ++ rest⟩ = .ok value ⟨data, position + 4, rest⟩ := by
  simpa using u32_codec.complete value data position rest trivial

@[simp] theorem u64_apply (value : UInt64) :
    u64 ⟨data, position, Bytes.u64 value ++ rest⟩ = .ok value ⟨data, position + 8, rest⟩ := by
  simpa using u64_codec.complete value data position rest trivial

@[simp] theorem i32_apply (value : Int32) :
    i32 ⟨data, position, Bytes.i32 value ++ rest⟩ = .ok value ⟨data, position + 4, rest⟩ := by
  simpa using i32_codec.complete value data position rest trivial

@[simp] theorem i64_apply (value : Int64) :
    i64 ⟨data, position, Bytes.i64 value ++ rest⟩ = .ok value ⟨data, position + 8, rest⟩ := by
  simpa using i64_codec.complete value data position rest trivial

end Apply

theorem times_go (item : Scan α) (count : Nat) (found : List α) :
    times.go item count found = (found.reverse ++ ·) <$> times count item := by
  induction count generalizing found with
  | zero =>
    funext cursor
    simp [times, times.go]
  | succ count ih =>
    change times.go item (count + 1) found = (found.reverse ++ ·) <$> times.go item (count + 1) []
    simp only [times.go, ih, map_eq_pure_bind, bind_assoc, pure_bind]
    simp

theorem times_succ (item : Scan α) (count : Nat) :
    times (count + 1) item = do
      let value ← item
      let values ← times count item
      return value :: values := by
  change times.go item (count + 1) [] = _
  simp only [times.go, times_go, map_eq_pure_bind]
  simp

theorem times_codec {item : Scan α} {write : α → Bytes} {Fits : α → Prop}
    (codec : Codec item write Fits) (count : Nat) :
    Codec (times count item) (fun values => values.flatMap write)
      (fun values => values.length = count ∧ ∀ value ∈ values, Fits value) := by
  constructor
  · intro values data position rest ⟨counted, fits⟩
    induction values generalizing count position with
    | nil =>
      subst counted
      simp [times, times.go]
    | cons value values ih =>
      subst counted
      have first := codec.complete value data position (values.flatMap write ++ rest)
        (fits value List.mem_cons_self)
      have others := ih values.length (position + (write value).length) rfl
        fun found member => fits found (List.mem_cons_of_mem _ member)
      simp only [List.length_cons, times_succ, List.flatMap_cons, List.append_assoc, bind_apply,
        first, others, pure_apply, List.length_append, Nat.add_assoc]
  · intro before values after read
    induction count generalizing before values after with
    | zero =>
      obtain ⟨rfl, rfl⟩ := run_pure_iff.mp (show (pure [] : Scan (List α)) before = _ from read)
      exact ⟨⟨rfl, by simp⟩, .refl _⟩
    | succ count ih =>
      simp only [times_succ, run_bind_iff, run_pure_iff] at read
      obtain ⟨value, middle, first, others, _, tail, rfl, rfl⟩ := read
      obtain ⟨fits, passed⟩ := codec.sound _ _ _ first
      obtain ⟨⟨rfl, fitting⟩, further⟩ := ih _ _ _ tail
      exact ⟨⟨rfl, List.forall_mem_cons.mpr ⟨fits, fitting⟩⟩, passed.trans further⟩

theorem counted_codec {item : Scan α} {write : α → Bytes} {Fits : α → Prop}
    (codec : Codec item write Fits) :
    Codec (counted item) (fun values => Bytes.count values ++ values.flatMap write)
      (fun values => values.length < 65536 ∧ ∀ value ∈ values, Fits value) := by
  constructor
  · intro values data position rest ⟨short, fits⟩
    have others := (times_codec codec values.length).complete values data (position + 2) rest
      ⟨rfl, fits⟩
    rw [Bytes.count_eq values short, List.append_assoc]
    simp only [counted, bind_apply, u16_apply, UInt16.toNat_ofNat_of_lt' short, others,
      List.length_append, Bytes.length_u16, Nat.add_assoc]
  · intro before values after read
    simp only [counted, run_bind_iff] at read
    obtain ⟨count, middle, first, tail⟩ := read
    obtain ⟨_, passed⟩ := u16_codec.sound _ _ _ first
    obtain ⟨⟨counted, fits⟩, further⟩ := (times_codec codec _).sound _ _ _ tail
    have short : values.length < 65536 := counted ▸ count.toNat_lt
    refine ⟨⟨short, fits⟩, (passed.congr ?_).trans further⟩
    rw [Bytes.count_eq values short, counted, UInt16.ofNat_toNat]

theorem times_sound {item : Scan α} {other : Scan β} {Gives : α → β → Prop}
    (one : ∀ before value after, other before = .ok value after →
      ∃ raw, item before = .ok raw after ∧ Gives raw value)
    (read : times count other before = .ok values after) :
    ∃ given, times count item before = .ok given after ∧ List.Forall₂ Gives given values := by
  induction count generalizing before values after with
  | zero =>
    obtain ⟨rfl, rfl⟩ := run_pure_iff.mp (show (pure [] : Scan (List β)) before = _ from read)
    exact ⟨[], rfl, .nil⟩
  | succ count ih =>
    simp only [times_succ, run_bind_iff, run_pure_iff] at read ⊢
    obtain ⟨value, middle, first, others, last, tail, rfl, rfl⟩ := read
    obtain ⟨raw, taken, gives⟩ := one _ _ _ first
    obtain ⟨given, remaining, related⟩ := ih tail
    exact ⟨raw :: given, ⟨raw, middle, taken, given, last, remaining, rfl, rfl⟩, .cons gives related⟩

theorem counted_sound {item : Scan α} {other : Scan β} {Gives : α → β → Prop}
    (one : ∀ before value after, other before = .ok value after →
      ∃ raw, item before = .ok raw after ∧ Gives raw value)
    (read : counted other before = .ok values after) :
    ∃ given, counted item before = .ok given after ∧ List.Forall₂ Gives given values := by
  obtain ⟨count, middle, first, read⟩ := run_bind_iff.mp read
  obtain ⟨given, taken, related⟩ := times_sound one read
  exact ⟨given, run_bind_iff.mpr ⟨count, middle, first, taken⟩, related⟩

-- A list whose items are looked up as soon as they are read is the list of items looked up.
theorem times_lift_iff {item : Scan α} {resolve : α → Except Error β} :
    times count (do lift (resolve (← item))) before = .ok values after ↔
      ∃ given, times count item before = .ok given after ∧
        List.Forall₂ (fun raw value => resolve raw = .ok value) given values := by
  constructor
  · refine times_sound fun _ _ _ read => ?_
    simp only [run_bind_iff, lift_ok_iff] at read
    obtain ⟨raw, _, taken, found, rfl⟩ := read
    exact ⟨raw, taken, found⟩
  · intro stated
    rcases stated with ⟨given, read, related⟩
    induction count generalizing before given values with
    | zero =>
      obtain ⟨rfl, rfl⟩ := run_pure_iff.mp (show (pure [] : Scan (List α)) before = _ from read)
      cases related
      rfl
    | succ count ih =>
      simp only [times_succ, run_bind_iff, run_pure_iff, lift_ok_iff] at read ⊢
      obtain ⟨raw, middle, first, others, last, tail, rfl, rfl⟩ := read
      cases related with
      | cons found related =>
        exact ⟨_, middle, ⟨raw, middle, first, found, rfl⟩, _, last, ih _ tail related, rfl, rfl⟩

theorem counted_lift_iff {item : Scan α} {resolve : α → Except Error β} :
    counted (do lift (resolve (← item))) before = .ok values after ↔
      ∃ given, counted item before = .ok given after ∧
        List.Forall₂ (fun raw value => resolve raw = .ok value) given values := by
  simp only [counted, run_bind_iff, times_lift_iff]
  constructor
  · intro stated
    rcases stated with ⟨count, middle, first, given, tail, related⟩
    exact ⟨given, ⟨count, middle, first, tail⟩, related⟩
  · intro stated
    rcases stated with ⟨given, ⟨count, middle, first, tail⟩, related⟩
    exact ⟨count, middle, first, given, tail, related⟩

theorem prefixedBytes_codec :
    Codec prefixedBytes (fun value => Bytes.count value ++ value) (·.length < 65536) := by
  constructor
  · intro value data position rest short
    rw [Bytes.count_eq value short, List.append_assoc]
    simp only [prefixedBytes, bind_apply, u16_apply, UInt16.toNat_ofNat_of_lt' short, bytes_apply,
      List.length_append, Bytes.length_u16, Nat.add_assoc]
  · intro before value after read
    simp only [prefixedBytes, run_bind_iff] at read
    obtain ⟨count, middle, first, tail⟩ := read
    obtain ⟨_, passed⟩ := u16_codec.sound _ _ _ first
    obtain ⟨counted, further⟩ := (bytes_codec _).sound _ _ _ tail
    have short : value.length < 65536 := counted ▸ count.toNat_lt
    refine ⟨short, (passed.congr ?_).trans further⟩
    rw [Bytes.count_eq value short, counted, UInt16.ofNat_toNat]

@[simp] theorem get_apply (cursor : Cursor) : (get : Scan Cursor) cursor = .ok cursor cursor := rfl

theorem position_ok_iff : position before = .ok value after ↔ value = before.position ∧ before = after := by
  constructor
  · intro looked
    cases looked
    exact ⟨rfl, rfl⟩
  · intro stated
    rcases stated with ⟨rfl, rfl⟩
    rfl

theorem endOf_ok_iff : endOf size before = .ok value after ↔
    size ≤ before.rest.length ∧ value = before.position + size ∧ before = after := by
  unfold endOf
  rw [Bytes.split?_eq]
  by_cases enough : size ≤ before.rest.length
  · simp [enough, eq_comm]
  · simp [enough]

theorem finished_ok_iff {flaw : Nat → Flaw} :
    finished flaw before = .ok value after ↔ before.rest = [] ∧ before = after := by
  unfold finished Cursor.hasMore
  cases before.rest <;> simp

theorem advance_ok_iff : advance size before = .ok value after ↔
    ∃ skipped, skipped.length = size ∧ Passed skipped before after := by
  simp only [advance, run_bind_iff, run_pure_iff]
  constructor
  · intro stated
    rcases stated with ⟨skipped, _, taken, _, rfl⟩
    obtain ⟨width, passed⟩ := (bytes_codec size).sound _ _ _ taken
    exact ⟨skipped, width, passed⟩
  · intro stated
    rcases stated with ⟨skipped, width, passed⟩
    exact ⟨skipped, after, (bytes_codec size).read width passed, trivial, rfl⟩

theorem bytes_error_iff : bytes size before = .error error after ↔
    before.rest.length < size ∧ error = .outOfBounds ∧ after = before := by
  unfold bytes
  rw [Bytes.split?_eq]
  by_cases enough : size ≤ before.rest.length
  · simp [enough]
  · simp [Nat.lt_of_not_le enough, enough, eq_comm]

theorem advance_error_iff : advance size before = .error error after ↔
    before.rest.length < size ∧ error = .outOfBounds ∧ after = before := by
  simp only [advance, run_bind_error_iff, bytes_error_iff]
  simp

theorem endOf_error_iff : endOf size before = .error error after ↔
    before.rest.length < size ∧ error = .outOfBounds ∧ after = before := by
  unfold endOf
  rw [Bytes.split?_eq]
  by_cases enough : size ≤ before.rest.length
  · simp [enough]
  · simp [Nat.lt_of_not_le enough, enough, eq_comm]

theorem prefixedBytes_error_iff : prefixedBytes before = .error error after ↔
    bytes 2 before = .error error after ∨
      ∃ given middle, bytes 2 before = .ok given middle ∧
        bytes (Bytes.toNat given) middle = .error error after := by
  have fits : ∀ given middle, bytes 2 before = .ok given middle →
      (UInt16.ofNat (Bytes.toNat given)).toNat = Bytes.toNat given := by
    intro given middle taken
    have size := ((bytes_codec 2).sound _ _ _ taken).1
    exact UInt16.toNat_ofNat_of_lt' (by simpa [size] using Bytes.toNat_lt given)
  simp only [prefixedBytes, run_bind_error_iff, u16, number, run_map_error_iff, run_map_iff]
  refine or_congr_right ⟨?_, ?_⟩
  · intro stated
    rcases stated with ⟨_, middle, ⟨_, ⟨given, taken, rfl⟩, rfl⟩, cut⟩
    rw [fits given middle taken] at cut
    exact ⟨given, middle, taken, cut⟩
  · intro stated
    rcases stated with ⟨given, middle, taken, cut⟩
    rw [← fits given middle taken] at cut
    exact ⟨_, middle, ⟨_, ⟨given, taken, rfl⟩, rfl⟩, cut⟩

theorem seek_ok_iff {position : Nat} : seek position before = .ok value after ↔
    position ≤ before.data.length ∧ ⟨before.data, position, before.data.drop position⟩ = after := by
  unfold seek
  by_cases inside : position ≤ before.data.length <;> simp [inside, eq_comm]

theorem seek_error_iff {position : Nat} : seek position before = .error error after ↔
    ¬ position ≤ before.data.length ∧ error = .outOfBounds ∧ after = before := by
  unfold seek
  by_cases inside : position ≤ before.data.length <;> simp [inside, eq_comm]

theorem peek_ok_iff : peek before = .ok value after ↔
    before.rest.head? = some value ∧ before = after := by
  unfold peek
  cases before.rest <;> simp [eq_comm]

theorem peek_error_iff : peek before = .error error after ↔
    before.rest = [] ∧ error = .outOfBounds ∧ after = before := by
  unfold peek
  cases before.rest <;> simp [eq_comm]

end Scan
end ClassRename
