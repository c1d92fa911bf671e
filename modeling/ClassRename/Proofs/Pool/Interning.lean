import ClassRename.Pool.Intern
import ClassRename.Proofs.Pool.Resolution
import ClassRename.Proofs.Text.ModifiedUtf8

namespace ClassRename
open Effects

def Constant.Storable : Constant → Prop
  | .unusable => False
  | .utf8 stored => stored.bytes.length < 65536
  | _ => True

theorem Constant.Storable.usable {constant : Constant} (storable : constant.Storable) :
    constant ≠ .unusable := by
  intro same
  subst same
  exact storable

theorem Constant.slots_length (constant : Constant) :
    constant.slots.length = if constant.isWide then 2 else 1 := by
  unfold Constant.slots
  split <;> rfl

namespace Pool

structure Sound (pool : Pool) : Prop where
  bounded : pool.size ≤ capacity
  named : ∀ (constant : Constant) (index : UInt16), pool.first[constant]? = some index →
    pool.slots[index.toNat]? = some constant

-- The pools that come from one by adding storable constants as long as there is room.
inductive Grown (pool : Pool) : Pool → Prop where
  | refl : Grown pool pool
  | add (grown : Grown pool later) (storable : constant.Storable)
      (room : later.size + constant.slots.length ≤ capacity) : Grown pool (later.append constant)

def Built (pool : Pool) : Prop := Grown .empty pool

theorem size_append (pool : Pool) (constant : Constant) :
    (pool.append constant).size = pool.size + constant.slots.length := by
  simp only [size, slots_append, ← Array.length_toList, Array.toList_appendList, List.length_append]

theorem extends_append (pool : Pool) (constant : Constant) : Extends pool (pool.append constant) :=
  ⟨constant.slots, by simp [slots_append]⟩

theorem slot_append (pool : Pool) (constant : Constant) :
    (pool.append constant).slots[pool.size]? = some constant := by
  have first : constant.slots[0]? = some constant := by
    unfold Constant.slots
    split <;> rfl
  rw [slots_append, ← Array.getElem?_toList, Array.toList_appendList,
    List.getElem?_append_right (by simp [size])]
  simpa [size] using first

theorem mem_append_iff {pool : Pool} {given constant : Constant} (narrow : given.isWide = false) :
    constant ∈ (pool.append given).slots ↔ constant ∈ pool.slots ∨ constant = given := by
  rw [slots_append, Constant.slots, narrow]
  simp

theorem index_append {pool : Pool} {constant : Constant}
    (room : pool.size + constant.slots.length ≤ capacity) :
    (UInt16.ofNat pool.size).toNat = pool.size := by
  have positive : 0 < constant.slots.length := by
    rw [Constant.slots_length]
    split <;> decide
  have limit : capacity = 65535 := rfl
  exact Utf16.toNat_ofNat_unit (by omega)

theorem append_sound (sound : Sound pool) (room : pool.size + constant.slots.length ≤ capacity) :
    Sound (pool.append constant) := by
  refine ⟨by rw [size_append]; exact room, ?_⟩
  intro given index found
  change (pool.first.insertIfNew constant (UInt16.ofNat pool.size))[given]? = some index at found
  rw [Std.HashMap.getElem?_insertIfNew] at found
  split at found
  · rename_i fresh
    cases found
    rw [index_append room, ← beq_iff_eq.mp fresh.1]
    exact slot_append pool constant
  · exact (extends_append pool constant).slot (sound.named given index found)

theorem Grown.trans (first : Grown pool middle) (second : Grown middle later) : Grown pool later := by
  induction second with
  | refl => exact first
  | add _ storable room ih => exact ih.add storable room

theorem Grown.extends (grown : Grown pool later) : Extends pool later := by
  induction grown with
  | refl => exact .refl _
  | add _ _ _ ih => exact ih.trans (extends_append _ _)

theorem Grown.sound (grown : Grown pool later) (sound : Sound pool) : Sound later := by
  induction grown with
  | refl => exact sound
  | add _ _ room ih => exact append_sound ih room

theorem empty_sound : Sound .empty := by
  refine ⟨by decide, ?_⟩
  intro constant index found
  simp [empty] at found

theorem Built.sound (built : Built pool) : Sound pool := Grown.sound built empty_sound

theorem Built.grow (built : Built pool) (grown : Grown pool later) : Built later :=
  Grown.trans built grown

def named (name : Bytes) : Pool := (Pool.empty.append (.utf8 ⟨name⟩)).append (.classRef 1)

theorem named_built (short : name.length < 65536) : Built (named name) := by
  have text : Grown .empty (Pool.empty.append (.utf8 ⟨name⟩)) :=
    .add .refl short (Nat.le_of_ble_eq_true rfl)
  exact text.add trivial (Nat.le_of_ble_eq_true rfl)

def Grows (action : Interning α) : Prop :=
  ∀ pool, match action pool with
    | .ok _ later | .error _ later => Grown pool later

theorem Grows.ok {action : Interning α} (grows : Grows action) (ran : action pool = .ok value later) :
    Grown pool later := by
  have grown := grows pool
  rwa [ran] at grown

theorem grows_pure (value : α) : Grows (pure value : Interning α) := fun _ => .refl

theorem grows_throw (error : Error) : Grows (throw error : Interning α) := fun _ => .refl

theorem Grows.bind {action : Interning α} {next : α → Interning β} (first : Grows action)
    (second : ∀ value, Grows (next value)) : Grows (action >>= next) := by
  intro pool
  have grown := first pool
  rw [bind_apply]
  cases ran : action pool with
  | error error later =>
    rw [ran] at grown
    exact grown
  | ok value later =>
    rw [ran] at grown
    have further := second value later
    dsimp only
    split at further <;> rename_i ended <;> rw [ended] <;> exact grown.trans further

theorem grows_intern (storable : constant.Storable) : Grows (intern constant) := by
  intro pool
  unfold intern
  split
  · rename_i stopped
    split at stopped
    · cases stopped
      exact .refl
    · split at stopped
      · rename_i room
        cases stopped
        exact .add .refl storable room
      · cases stopped
  · rename_i stopped
    split at stopped
    · cases stopped
    · split at stopped
      · cases stopped
      · cases stopped
        exact .refl

theorem grows_internText (text : String) : Grows (internText text) := by
  unfold internText
  dsimp only
  split
  · exact grows_throw _
  · rename_i short
    exact grows_intern (show (EncodedText.ofString text).bytes.length < 65536 by omega)

theorem grows_internClass (name : String) : Grows (internClass name) :=
  (grows_internText name).bind fun _ => grows_intern trivial

theorem grows_internNameAndType (name descriptor : String) : Grows (internNameAndType name descriptor) :=
  (grows_internText name).bind fun _ => (grows_internText descriptor).bind fun _ => grows_intern trivial

theorem grows_internMember (member : MemberRef) : Grows (internMember member) :=
  (grows_internClass _).bind fun _ => (grows_internNameAndType _ _).bind fun _ => grows_intern trivial

theorem grows_internLoadable (value : Loadable) : Grows (internLoadable value) := by
  cases value with
  | integer | float | long | double => exact grows_intern trivial
  | string text => exact (grows_internText text).bind fun _ => grows_intern trivial
  | type name => exact grows_internClass name
  | other index =>
    intro pool
    simp only [internLoadable]
    cases pool.get index <;> exact .refl

-- The hint is either used, which changes nothing, or what it was for is interned.
theorem grows_memberIndex (hint : Option UInt16) (member : MemberRef) :
    Grows (memberIndex hint member) := by
  intro pool
  unfold memberIndex
  cases hint.filter (pool.isMember · member) with
  | some index => exact .refl
  | none => exact grows_internMember member pool

theorem grows_loadableIndex (hint : Option UInt16) (value : Loadable) :
    Grows (loadableIndex hint value) := by
  intro pool
  unfold loadableIndex
  cases hint.filter (pool.loads · value) with
  | some index => exact .refl
  | none => exact grows_internLoadable value pool

theorem isMember_iff {pool : Pool} :
    pool.isMember index member = true ↔ pool.memberRef index = .ok member := by
  unfold isMember
  cases pool.memberRef index <;> simp

theorem loads_iff {pool : Pool} : pool.loads index value = true ↔ pool.loadable index = .ok value := by
  unfold loads
  cases pool.loadable index <;> simp

section Resolution
variable {pool later : Pool} (sound : Sound pool)
include sound

theorem intern_slot (ran : intern constant pool = .ok index later) :
    Sound later ∧ later.slots[index.toNat]? = some constant := by
  unfold intern at ran
  split at ran
  · rename_i found
    cases ran
    exact ⟨sound, sound.named _ _ found⟩
  · split at ran
    · rename_i room
      cases ran
      refine ⟨append_sound sound room, ?_⟩
      rw [index_append room]
      exact slot_append pool constant
    · cases ran

theorem get_of_intern (usable : constant ≠ .unusable) (ran : intern constant pool = .ok index later) :
    later.get index = .ok constant :=
  get_ok_iff.mpr ⟨(intern_slot sound ran).2, usable⟩

theorem intern_fresh (absent : constant ∉ pool.slots)
    (room : pool.size + constant.slots.length ≤ capacity) :
    intern constant pool = .ok (UInt16.ofNat pool.size) (pool.append constant) := by
  unfold intern
  cases found : pool.first[constant]? with
  | some index => exact absurd (Array.mem_of_getElem? (sound.named constant index found)) absent
  | none => exact if_pos room

theorem text_of_internText {string : String} (ran : internText string pool = .ok index later) :
    later.text index = .ok string := by
  unfold internText at ran
  split at ran
  · cases ran
  · have found := get_of_intern sound (by simp) ran
    exact text_ok_iff.mpr ⟨_, encodedText_ok_iff.mpr found, EncodedText.text?_ofString string⟩

theorem className_of_internClass (ran : internClass name pool = .ok index later) :
    later.className index = .ok name := by
  simp only [internClass, run_bind_iff] at ran
  obtain ⟨text, middle, named, held⟩ := ran
  have grown := (grows_internText name).ok named
  have further := (grows_intern (show (Constant.classRef text).Storable from trivial)).ok held
  obtain ⟨stored, present, read⟩ := text_ok_iff.mp (text_of_internText sound named)
  have found := get_of_intern (grown.sound sound) (by simp) held
  exact className_ok_iff.mpr ⟨stored, encodedClassName_ok_iff.mpr
    ⟨text, found, encodedText_extends further.extends present⟩, read⟩

theorem nameAndType_of_intern (ran : internNameAndType name descriptor pool = .ok index later) :
    later.nameAndType index = .ok (name, descriptor) := by
  simp only [internNameAndType, run_bind_iff] at ran
  obtain ⟨first, middle, named, second, last, described, held⟩ := ran
  have grown := (grows_internText name).ok named
  have further := (grows_internText descriptor).ok described
  have ending :=
    (grows_intern (show (Constant.nameAndType first second).Storable from trivial)).ok held
  have firstText := text_of_internText sound named
  have secondText := text_of_internText (grown.sound sound) described
  have found := get_of_intern (further.sound (grown.sound sound)) (by simp) held
  exact nameAndType_ok_iff.mpr ⟨first, second, found,
    text_extends (further.extends.trans ending.extends) firstText,
    text_extends ending.extends secondText⟩

theorem memberRef_of_internMember {member : MemberRef}
    (ran : internMember member pool = .ok index later) : later.memberRef index = .ok member := by
  simp only [internMember, run_bind_iff] at ran
  obtain ⟨owner, middle, owned, signature, last, signed, held⟩ := ran
  have grown := (grows_internClass member.owner).ok owned
  have further := (grows_internNameAndType member.name member.descriptor).ok signed
  have ending :=
    (grows_intern (show (Constant.member member.kind owner signature).Storable from trivial)).ok held
  have ownerName := className_of_internClass sound owned
  have pair := nameAndType_of_intern (grown.sound sound) signed
  have found := get_of_intern (further.sound (grown.sound sound)) (by simp) held
  exact memberRef_ok_iff.mpr ⟨owner, signature, found, nameAndType_extends ending.extends pair,
    className_extends (further.extends.trans ending.extends) ownerName⟩

theorem memberRef_of_memberIndex {member : MemberRef}
    (ran : memberIndex hint member pool = .ok index later) : later.memberRef index = .ok member := by
  unfold memberIndex at ran
  split at ran
  · rename_i reused
    cases ran
    exact isMember_iff.mp (Option.filter_eq_some_iff.mp reused).2
  · exact memberRef_of_internMember sound ran

theorem loadable_of_internLoadable (known : ∀ given, value = .other given →
      pool.loadable given = .ok (.other given))
    (ran : internLoadable value pool = .ok index later) : later.loadable index = .ok value := by
  cases value with
  | integer | float | long | double =>
    have found := get_of_intern sound (by simp) ran
    first
      | exact loadable_ok_iff.mpr (.integer found)
      | exact loadable_ok_iff.mpr (.float found)
      | exact loadable_ok_iff.mpr (.long found)
      | exact loadable_ok_iff.mpr (.double found)
  | string string =>
    simp only [internLoadable, run_bind_iff] at ran
    obtain ⟨text, middle, named, held⟩ := ran
    have grown := (grows_internText string).ok named
    have further := (grows_intern (show (Constant.string text).Storable from trivial)).ok held
    obtain ⟨stored, present, read⟩ := text_ok_iff.mp (text_of_internText sound named)
    have found := get_of_intern (grown.sound sound) (by simp) held
    exact loadable_ok_iff.mpr (.string found (encodedText_extends further.extends present) read)
  | type name =>
    obtain ⟨stored, holder, read⟩ := className_ok_iff.mp (className_of_internClass sound ran)
    obtain ⟨text, found, present⟩ := encodedClassName_ok_iff.mp holder
    exact loadable_ok_iff.mpr (.type found present read)
  | other given =>
    simp only [internLoadable] at ran
    split at ran
    · cases ran
      exact known _ rfl
    · cases ran

theorem loadable_of_loadableIndex (known : ∀ given, value = .other given →
      pool.loadable given = .ok (.other given))
    (ran : loadableIndex hint value pool = .ok index later) : later.loadable index = .ok value := by
  unfold loadableIndex at ran
  split at ran
  · rename_i reused
    cases ran
    exact loads_iff.mp (Option.filter_eq_some_iff.mp reused).2
  · exact loadable_of_internLoadable sound known ran

end Resolution

-- A constant without a value of its own is known by the index it is loaded from.
theorem index_of_other {pool : Pool} (loaded : pool.loadable index = .ok (.other given)) :
    given = index := by
  cases loadable_ok_iff.mp loaded <;> rfl

theorem memberIndex_reuses {pool : Pool} {member : MemberRef}
    (found : pool.memberRef index = .ok member) :
    memberIndex (some index) member pool = .ok index pool := by
  simp [memberIndex, Option.filter, isMember_iff.mpr found]

theorem loadableIndex_reuses {pool : Pool} (found : pool.loadable index = .ok value) :
    loadableIndex (some index) value pool = .ok index pool := by
  simp [loadableIndex, Option.filter, loads_iff.mpr found]

end Pool
end ClassRename
