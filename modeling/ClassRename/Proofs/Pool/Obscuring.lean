import ClassRename.Proofs.Pool.Resolution

namespace ClassRename
open Effects

def Constant.parts : Constant → List UInt16
  | .classRef name | .string name => [name]
  | .member _ owner signature => [owner, signature]
  | .nameAndType name descriptor => [name, descriptor]
  | _ => []

def Constant.isReference : Constant → Bool
  | .member .. => true
  | _ => false

theorem Constant.ne_utf8_of_parts {constant : Constant} (named : part ∈ constant.parts)
    (stored : EncodedText) : constant ≠ .utf8 stored := by
  rintro rfl
  cases named

namespace Pool

structure Lost (earlier later : Pool) (index : UInt16) : Prop where
  before : ∃ stored text, earlier.slots[index.toNat]? = some (.utf8 stored) ∧
    stored.text? = some text
  after : ∃ stored, later.slots[index.toNat]? = some (.utf8 stored) ∧ stored.text? = none

-- The slots of the earlier pool are those of the later one, but for texts that were lost. What
-- stands behind them in the later pool does not matter.
def Obscures (earlier later : Pool) : Prop :=
  ∀ (index : UInt16) constant, earlier.slots[index.toNat]? = some constant →
    later.slots[index.toNat]? = some constant ∨ Lost earlier later index

theorem Extends.obscures (extended : Extends earlier later) : Obscures earlier later :=
  fun _ _ present => .inl (extended.slot present)

-- An index that is lost, or stands for something by way of one that is.
inductive Touched (earlier later : Pool) : UInt16 → Prop where
  | here (lost : Lost earlier later index) : Touched earlier later index
  | part (held : earlier.slots[index.toNat]? = some constant) (named : next ∈ constant.parts)
      (behind : Touched earlier later next) : Touched earlier later index

theorem isOpaqueText_iff {pool : Pool} :
    pool.isOpaqueText index = true ↔
      ∃ stored, pool.slots[index.toNat]? = some (.utf8 stored) ∧ stored.text? = none := by
  unfold isOpaqueText
  split
  · rename_i stored slot
    simp [slot]
  · rename_i other
    constructor
    · intro impossible
      cases impossible
    · intro stated
      obtain ⟨stored, slot, _⟩ := stated
      exact absurd slot (other stored)

theorem Lost.isOpaqueText (lost : Lost earlier later index) : later.isOpaqueText index = true :=
  isOpaqueText_iff.mpr lost.after

theorem hasOpaquePart_iff {pool : Pool} : pool.hasOpaquePart index = true ↔
    ∃ constant part, pool.slots[index.toNat]? = some constant ∧ constant.isReference = false ∧
      part ∈ constant.parts ∧ pool.isOpaqueText part = true := by
  constructor
  · intro reached
    unfold hasOpaquePart at reached
    split at reached
    · rename_i name slot
      exact ⟨_, name, slot, rfl, List.mem_cons_self, reached⟩
    · rename_i name slot
      exact ⟨_, name, slot, rfl, List.mem_cons_self, reached⟩
    · rename_i name descriptor slot
      rcases Bool.or_eq_true_iff.mp reached with first | second
      · exact ⟨_, name, slot, rfl, List.mem_cons_self, first⟩
      · exact ⟨_, descriptor, slot, rfl, List.mem_cons_of_mem _ List.mem_cons_self, second⟩
    · cases reached
  · intro stated
    obtain ⟨constant, part, slot, direct, named, reached⟩ := stated
    unfold hasOpaquePart
    rw [slot]
    cases constant with
    | classRef | string =>
      rw [Constant.parts, List.mem_singleton] at named
      rwa [← named]
    | nameAndType name descriptor =>
      rw [Constant.parts, List.mem_cons, List.mem_singleton] at named
      rcases named with rfl | rfl
      · simp [reached]
      · simp [reached]
    | member => cases direct
    | _ => cases named

theorem reachesOpaqueText_iff {pool : Pool} : pool.reachesOpaqueText index = true ↔
    pool.isOpaqueText index = true ∨ pool.hasOpaquePart index = true ∨
      ∃ constant part, pool.slots[index.toNat]? = some constant ∧ constant.isReference = true ∧
        part ∈ constant.parts ∧ pool.hasOpaquePart part = true := by
  unfold reachesOpaqueText
  split
  · rename_i kind owner signature slot
    simp [isOpaqueText, hasOpaquePart, slot, Constant.isReference, Constant.parts]
  · rename_i other
    have none : ¬ ∃ constant part, pool.slots[index.toNat]? = some constant ∧
        constant.isReference = true ∧ part ∈ constant.parts ∧ pool.hasOpaquePart part = true := by
      rintro ⟨constant, part, slot, reference, _, _⟩
      cases constant <;> cases reference
      exact other _ _ _ slot
    rw [Bool.or_eq_true, or_iff_left none]

section Obscuring
variable {earlier later : Pool} {index : UInt16} {constant : Constant}
  (obscures : Obscures earlier later)
include obscures

theorem slot_obscured (present : earlier.slots[index.toNat]? = some constant)
    (other : ∀ stored, constant ≠ .utf8 stored) :
    later.slots[index.toNat]? = some constant := by
  rcases obscures index constant present with kept | lost
  · exact kept
  · obtain ⟨stored, _, slot, _⟩ := lost.before
    rw [present] at slot
    exact absurd (Option.some.inj slot) (other stored)

theorem get_obscured (found : earlier.get index = .ok constant)
    (other : ∀ stored, constant ≠ .utf8 stored) : later.get index = .ok constant := by
  obtain ⟨present, usable⟩ := get_ok_iff.mp found
  exact get_ok_iff.mpr ⟨slot_obscured obscures present other, usable⟩

theorem isOpaqueText_obscured (reached : earlier.isOpaqueText index = true) :
    later.isOpaqueText index = true := by
  obtain ⟨stored, slot, unread⟩ := isOpaqueText_iff.mp reached
  rcases obscures index _ slot with kept | lost
  · exact isOpaqueText_iff.mpr ⟨stored, kept, unread⟩
  · exact lost.isOpaqueText

theorem hasOpaquePart_obscured (reached : earlier.hasOpaquePart index = true) :
    later.hasOpaquePart index = true := by
  obtain ⟨constant, part, slot, direct, named, unread⟩ := hasOpaquePart_iff.mp reached
  have kept := slot_obscured obscures slot (Constant.ne_utf8_of_parts named)
  exact hasOpaquePart_iff.mpr
    ⟨constant, part, kept, direct, named, isOpaqueText_obscured obscures unread⟩

theorem reachesOpaqueText_obscured (reached : earlier.reachesOpaqueText index = true) :
    later.reachesOpaqueText index = true := by
  rw [reachesOpaqueText_iff] at reached ⊢
  rcases reached with here | part | ⟨constant, part, slot, reference, named, behind⟩
  · exact .inl (isOpaqueText_obscured obscures here)
  · exact .inr (.inl (hasOpaquePart_obscured obscures part))
  · have kept := slot_obscured obscures slot (Constant.ne_utf8_of_parts named)
    exact .inr (.inr
      ⟨constant, part, kept, reference, named, hasOpaquePart_obscured obscures behind⟩)

theorem encodedText_obscured {stored : EncodedText}
    (present : earlier.encodedText index = .ok stored) :
    later.encodedText index = .ok stored ∨ ∃ hidden, later.encodedText index = .ok hidden ∧
      hidden.text? = none ∧ Lost earlier later index := by
  obtain ⟨slot, usable⟩ := get_ok_iff.mp (encodedText_ok_iff.mp present)
  rcases obscures index _ slot with kept | lost
  · exact .inl (encodedText_ok_iff.mpr (get_ok_iff.mpr ⟨kept, usable⟩))
  · obtain ⟨hidden, after, unread⟩ := lost.after
    exact .inr ⟨hidden, encodedText_ok_iff.mpr (get_ok_iff.mpr ⟨after, by simp⟩), unread, lost⟩

theorem text_obscured {string : String} (found : earlier.text index = .ok string) :
    later.text index = .ok string ∨ Lost earlier later index := by
  obtain ⟨stored, present, read⟩ := text_ok_iff.mp found
  rcases encodedText_obscured obscures present with same | ⟨_, _, _, lost⟩
  · exact .inl (text_ok_iff.mpr ⟨stored, same, read⟩)
  · exact .inr lost

theorem lost_part (found : earlier.get index = .ok constant) (direct : constant.isReference = false)
    (named : part ∈ constant.parts) (lost : Lost earlier later part) :
    later.hasOpaquePart index = true ∧ Touched earlier later index := by
  have held := (get_ok_iff.mp found).1
  have kept := slot_obscured obscures held (Constant.ne_utf8_of_parts named)
  exact ⟨hasOpaquePart_iff.mpr ⟨constant, part, kept, direct, named, lost.isOpaqueText⟩,
    .part held named (.here lost)⟩

theorem className_obscured (found : earlier.className index = .ok name) :
    later.className index = .ok name ∨
      later.hasOpaquePart index = true ∧ Touched earlier later index := by
  obtain ⟨stored, holder, read⟩ := className_ok_iff.mp found
  obtain ⟨given, present, named⟩ := encodedClassName_ok_iff.mp holder
  rcases encodedText_obscured obscures named with same | ⟨_, _, _, lost⟩
  · have kept := get_obscured obscures present (by simp)
    exact .inl (className_ok_iff.mpr
      ⟨stored, encodedClassName_ok_iff.mpr ⟨given, kept, same⟩, read⟩)
  · exact .inr (lost_part obscures present rfl List.mem_cons_self lost)

theorem nameAndType_obscured (found : earlier.nameAndType index = .ok pair) :
    later.nameAndType index = .ok pair ∨
      later.hasOpaquePart index = true ∧ Touched earlier later index := by
  obtain ⟨name, descriptor, present, named, described⟩ := nameAndType_ok_iff.mp found
  rcases text_obscured obscures named with first | lost
  · rcases text_obscured obscures described with second | lost
    · have kept := get_obscured obscures present (by simp)
      exact .inl (nameAndType_ok_iff.mpr ⟨name, descriptor, kept, first, second⟩)
    · exact .inr (lost_part obscures present rfl (List.mem_cons_of_mem _ List.mem_cons_self) lost)
  · exact .inr (lost_part obscures present rfl List.mem_cons_self lost)

theorem memberRef_obscured (found : earlier.memberRef index = .ok member) :
    later.memberRef index = .ok member ∨
      later.reachesOpaqueText index = true ∧ Touched earlier later index := by
  obtain ⟨owner, signature, present, signed, owned⟩ := memberRef_ok_iff.mp found
  have kept := get_obscured obscures present (by simp)
  have reach : ∀ part ∈ (Constant.member member.kind owner signature).parts,
      later.hasOpaquePart part = true ∧ Touched earlier later part →
        later.reachesOpaqueText index = true ∧ Touched earlier later index := by
    intro part named hidden
    refine ⟨reachesOpaqueText_iff.mpr (.inr (.inr ?_)), .part (get_ok_iff.mp present).1 named hidden.2⟩
    exact ⟨_, part, (get_ok_iff.mp kept).1, rfl, named, hidden.1⟩
  rcases className_obscured obscures owned with first | hidden
  · rcases nameAndType_obscured obscures signed with second | hidden
    · exact .inl (memberRef_ok_iff.mpr ⟨owner, signature, kept, second, first⟩)
    · exact .inr (reach signature (List.mem_cons_of_mem _ List.mem_cons_self) hidden)
  · exact .inr (reach owner List.mem_cons_self hidden)

theorem loadable_obscured (loaded : earlier.loadable index = .ok value) :
    later.loadable index = .ok value ∨ later.loadable index = .ok (.other index) ∧
      later.reachesOpaqueText index = true ∧ Touched earlier later index := by
  simp only [loadable_ok_iff] at loaded ⊢
  cases loaded with
  | integer found => exact .inl (.integer (get_obscured obscures found (by simp)))
  | float found => exact .inl (.float (get_obscured obscures found (by simp)))
  | long found => exact .inl (.long (get_obscured obscures found (by simp)))
  | double found => exact .inl (.double (get_obscured obscures found (by simp)))
  | string found present read =>
    have kept := get_obscured obscures found (by simp)
    rcases encodedText_obscured obscures present with same | ⟨hidden, after, unread, lost⟩
    · exact .inl (.string kept same read)
    · have behind := lost_part obscures found rfl List.mem_cons_self lost
      exact .inr ⟨.unreadString kept after unread,
        reachesOpaqueText_iff.mpr (.inr (.inl behind.1)), behind.2⟩
  | type found present read =>
    have kept := get_obscured obscures found (by simp)
    rcases encodedText_obscured obscures present with same | ⟨hidden, after, unread, lost⟩
    · exact .inl (.type kept same read)
    · have behind := lost_part obscures found rfl List.mem_cons_self lost
      exact .inr ⟨.unreadType kept after unread,
        reachesOpaqueText_iff.mpr (.inr (.inl behind.1)), behind.2⟩
  | unreadString found present unread =>
    have kept := get_obscured obscures found (by simp)
    rcases encodedText_obscured obscures present with same | ⟨hidden, after, unread, _⟩
    · exact .inl (.unreadString kept same unread)
    · exact .inl (.unreadString kept after unread)
  | unreadType found present unread =>
    have kept := get_obscured obscures found (by simp)
    rcases encodedText_obscured obscures present with same | ⟨hidden, after, unread, _⟩
    · exact .inl (.unreadType kept same unread)
    · exact .inl (.unreadType kept after unread)
  | handle found kind =>
    refine .inl (.handle (get_obscured obscures found ?_) kind)
    rintro stored rfl
    cases kind

end Obscuring

theorem reachesOpaqueText_extends (extended : Extends earlier later)
    (reached : earlier.reachesOpaqueText index = true) : later.reachesOpaqueText index = true :=
  reachesOpaqueText_obscured extended.obscures reached

end Pool
end ClassRename
