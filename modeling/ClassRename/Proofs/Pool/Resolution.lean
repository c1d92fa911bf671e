import ClassRename.Pool.Resolve
import ClassRename.Proofs.Effects

namespace ClassRename
open Effects

namespace Pool

def Extends (earlier later : Pool) : Prop := earlier.slots.toList <+: later.slots.toList

theorem Extends.refl (pool : Pool) : Extends pool pool := List.prefix_refl _

theorem Extends.trans (left : Extends before middle) (right : Extends middle after) :
    Extends before after := List.IsPrefix.trans left right

theorem Extends.slot {index : Nat} (extended : Extends earlier later)
    (present : earlier.slots[index]? = some constant) : later.slots[index]? = some constant := by
  obtain ⟨added, same⟩ := extended
  rw [← Array.getElem?_toList] at present ⊢
  rw [← same, List.getElem?_append_left (List.getElem?_eq_some_iff.mp present).1]
  exact present

theorem get_ok_iff {pool : Pool} :
    pool.get index = .ok constant ↔
      pool.slots[index.toNat]? = some constant ∧ constant ≠ .unusable := by
  unfold get
  split
  · rename_i empty
    rw [empty]
    constructor
    · intro impossible
      cases impossible
    · intro stated
      rcases stated with ⟨impossible, _⟩
      cases impossible
  · rename_i reserved
    constructor
    · intro impossible
      cases impossible
    · intro stated
      rcases stated with ⟨found, usable⟩
      rw [reserved] at found
      exact absurd (Option.some.inj found).symm usable
  · rename_i given usable found
    rw [found]
    constructor
    · intro same
      cases same
      exact ⟨rfl, usable⟩
    · intro stated
      rcases stated with ⟨same, _⟩
      cases same
      rfl

theorem get_extends (extended : Extends earlier later) (found : earlier.get index = .ok constant) :
    later.get index = .ok constant := by
  obtain ⟨present, usable⟩ := get_ok_iff.mp found
  exact get_ok_iff.mpr ⟨extended.slot present, usable⟩

theorem encodedText_ok_iff {pool : Pool} {stored : EncodedText} :
    pool.encodedText index = .ok stored ↔ pool.get index = .ok (.utf8 stored) := by
  simp only [encodedText, bind_ok_iff]
  constructor
  · intro stated
    rcases stated with ⟨constant, found, shown⟩
    cases constant <;> cases shown
    exact found
  · intro found
    exact ⟨_, found, rfl⟩

theorem text_ok_iff {pool : Pool} {string : String} :
    pool.text index = .ok string ↔
      ∃ stored, pool.encodedText index = .ok stored ∧ stored.text? = some string := by
  simp only [Pool.text, bind_ok_iff]
  constructor
  · intro stated
    rcases stated with ⟨stored, found, shown⟩
    cases read : stored.text? with
    | none =>
      rw [read] at shown
      cases shown
    | some given =>
      rw [read] at shown
      cases shown
      exact ⟨stored, found, read⟩
  · intro stated
    rcases stated with ⟨stored, found, read⟩
    exact ⟨stored, found, by simp [read]⟩

theorem encodedClassName_ok_iff {pool : Pool} {stored : EncodedText} :
    pool.encodedClassName index = .ok stored ↔
      ∃ name, pool.get index = .ok (.classRef name) ∧ pool.encodedText name = .ok stored := by
  simp only [encodedClassName, bind_ok_iff]
  constructor
  · intro stated
    rcases stated with ⟨constant, found, shown⟩
    cases constant with
    | classRef name => exact ⟨name, found, shown⟩
    | _ => cases shown
  · intro stated
    rcases stated with ⟨name, found, shown⟩
    exact ⟨_, found, shown⟩

theorem className_ok_iff {pool : Pool} :
    pool.className index = .ok name ↔
      ∃ stored, pool.encodedClassName index = .ok stored ∧ stored.text? = some name := by
  simp only [className, bind_ok_iff]
  constructor
  · intro stated
    rcases stated with ⟨stored, found, shown⟩
    cases read : stored.text? with
    | none =>
      rw [read] at shown
      cases shown
    | some given =>
      rw [read] at shown
      cases shown
      exact ⟨stored, found, read⟩
  · intro stated
    rcases stated with ⟨stored, found, read⟩
    exact ⟨stored, found, by simp [read]⟩

theorem nameAndType_ok_iff {pool : Pool} :
    pool.nameAndType index = .ok pair ↔
      ∃ name descriptor, pool.get index = .ok (.nameAndType name descriptor) ∧
        pool.text name = .ok pair.1 ∧ pool.text descriptor = .ok pair.2 := by
  simp only [Pool.nameAndType, bind_ok_iff]
  constructor
  · intro stated
    rcases stated with ⟨constant, found, shown⟩
    cases constant with
    | nameAndType name descriptor =>
      simp only [bind_ok_iff, pure_ok_iff] at shown
      obtain ⟨first, named, second, described, rfl⟩ := shown
      exact ⟨name, descriptor, found, named, described⟩
    | _ => cases shown
  · intro stated
    rcases stated with ⟨name, descriptor, found, named, described⟩
    refine ⟨_, found, ?_⟩
    simp only [bind_ok_iff, pure_ok_iff]
    exact ⟨_, named, _, described, rfl⟩

theorem memberRef_ok_iff {pool : Pool} :
    pool.memberRef index = .ok member ↔
      ∃ owner signature, pool.get index = .ok (.member member.kind owner signature) ∧
        pool.nameAndType signature = .ok (member.name, member.descriptor) ∧
        pool.className owner = .ok member.owner := by
  simp only [memberRef, bind_ok_iff]
  constructor
  · intro stated
    rcases stated with ⟨constant, found, shown⟩
    cases constant with
    | member kind owner signature =>
      simp only [bind_ok_iff, pure_ok_iff] at shown
      obtain ⟨⟨name, descriptor⟩, signed, holder, owned, rfl⟩ := shown
      exact ⟨owner, signature, found, signed, owned⟩
    | _ => cases shown
  · intro stated
    rcases stated with ⟨owner, signature, found, signed, owned⟩
    refine ⟨_, found, ?_⟩
    simp only [bind_ok_iff, pure_ok_iff]
    exact ⟨_, signed, _, owned, rfl⟩

def Shows (pool : Pool) (index : UInt16) (text : String) : Prop :=
  ∃ stored, pool.encodedText index = .ok stored ∧ stored.lossy = text

section Extension
variable {earlier later : Pool} (extended : Extends earlier later)
include extended

theorem encodedText_extends {stored : EncodedText} (found : earlier.encodedText index = .ok stored) :
    later.encodedText index = .ok stored :=
  encodedText_ok_iff.mpr (get_extends extended (encodedText_ok_iff.mp found))

theorem shows_extends {text : String} (shown : earlier.Shows index text) :
    later.Shows index text := by
  obtain ⟨stored, found, read⟩ := shown
  exact ⟨stored, encodedText_extends extended found, read⟩

theorem text_extends {string : String} (found : earlier.text index = .ok string) :
    later.text index = .ok string := by
  obtain ⟨stored, present, read⟩ := text_ok_iff.mp found
  exact text_ok_iff.mpr ⟨stored, encodedText_extends extended present, read⟩

theorem encodedClassName_extends {stored : EncodedText}
    (found : earlier.encodedClassName index = .ok stored) :
    later.encodedClassName index = .ok stored := by
  obtain ⟨name, present, read⟩ := encodedClassName_ok_iff.mp found
  exact encodedClassName_ok_iff.mpr
    ⟨name, get_extends extended present, encodedText_extends extended read⟩

theorem className_extends (found : earlier.className index = .ok name) :
    later.className index = .ok name := by
  obtain ⟨stored, present, read⟩ := className_ok_iff.mp found
  exact className_ok_iff.mpr ⟨stored, encodedClassName_extends extended present, read⟩

theorem nameAndType_extends (found : earlier.nameAndType index = .ok pair) :
    later.nameAndType index = .ok pair := by
  obtain ⟨name, descriptor, present, named, described⟩ := nameAndType_ok_iff.mp found
  exact nameAndType_ok_iff.mpr ⟨name, descriptor, get_extends extended present,
    text_extends extended named, text_extends extended described⟩

theorem memberRef_extends (found : earlier.memberRef index = .ok member) :
    later.memberRef index = .ok member := by
  obtain ⟨owner, signature, present, signed, owned⟩ := memberRef_ok_iff.mp found
  exact memberRef_ok_iff.mpr ⟨owner, signature, get_extends extended present,
    nameAndType_extends extended signed, className_extends extended owned⟩

end Extension

end Pool

def Constant.isHandle : Constant → Bool
  | .methodHandle .. | .methodType _ | .dynamic .. => true
  | _ => false

namespace Pool

-- What a load from an index pushes, by the kind of the constant there.
inductive Loads (pool : Pool) (index : UInt16) : Loadable → Prop where
  | integer (found : pool.get index = .ok (.integer value)) : Loads pool index (.integer value)
  | float (found : pool.get index = .ok (.float bits)) : Loads pool index (.float bits)
  | long (found : pool.get index = .ok (.long value)) : Loads pool index (.long value)
  | double (found : pool.get index = .ok (.double bits)) : Loads pool index (.double bits)
  | string (found : pool.get index = .ok (.string name)) (present : pool.encodedText name = .ok stored)
      (read : stored.text? = some string) : Loads pool index (.string string)
  | type (found : pool.get index = .ok (.classRef name)) (present : pool.encodedText name = .ok stored)
      (read : stored.text? = some string) : Loads pool index (.type string)
  | unreadString (found : pool.get index = .ok (.string name))
      (present : pool.encodedText name = .ok stored) (unread : stored.text? = none) :
      Loads pool index (.other index)
  | unreadType (found : pool.get index = .ok (.classRef name))
      (present : pool.encodedText name = .ok stored) (unread : stored.text? = none) :
      Loads pool index (.other index)
  | handle (found : pool.get index = .ok constant) (kind : constant.isHandle = true) :
      Loads pool index (.other index)

theorem loadable_sound {pool : Pool} (loaded : pool.loadable index = .ok value) :
    Loads pool index value := by
  simp only [loadable, bind_ok_iff] at loaded
  obtain ⟨constant, found, shown⟩ := loaded
  cases constant with
  | integer | float | long | double =>
    cases shown
    first
      | exact .integer found
      | exact .float found
      | exact .long found
      | exact .double found
  | string name =>
    simp only [bind_ok_iff, pure_ok_iff] at shown
    obtain ⟨stored, present, rfl⟩ := shown
    cases read : stored.text? with
    | none => exact .unreadString found present read
    | some string => exact .string found present read
  | classRef name =>
    simp only [bind_ok_iff, pure_ok_iff] at shown
    obtain ⟨stored, present, rfl⟩ := shown
    cases read : stored.text? with
    | none => exact .unreadType found present read
    | some string => exact .type found present read
  | methodHandle | methodType | dynamic =>
    cases shown
    exact .handle found rfl
  | _ => cases shown

theorem loadable_complete {pool : Pool} (loads : Loads pool index value) :
    pool.loadable index = .ok value := by
  simp only [loadable, bind_ok_iff]
  cases loads with
  | integer found | float found | long found | double found => exact ⟨_, found, rfl⟩
  | string found present read | type found present read
  | unreadString found present read | unreadType found present read =>
    refine ⟨_, found, ?_⟩
    simp only [bind_ok_iff, pure_ok_iff]
    exact ⟨_, present, by simp [read]⟩
  | handle found kind =>
    refine ⟨_, found, ?_⟩
    rename_i constant
    cases constant <;> first | rfl | cases kind

theorem loadable_ok_iff {pool : Pool} : pool.loadable index = .ok value ↔ Loads pool index value :=
  ⟨loadable_sound, loadable_complete⟩

theorem loadable_extends (extended : Extends earlier later)
    (loaded : earlier.loadable index = .ok value) : later.loadable index = .ok value := by
  rw [loadable_ok_iff] at loaded ⊢
  cases loaded with
  | integer found => exact .integer (get_extends extended found)
  | float found => exact .float (get_extends extended found)
  | long found => exact .long (get_extends extended found)
  | double found => exact .double (get_extends extended found)
  | string found present read =>
    exact .string (get_extends extended found) (encodedText_extends extended present) read
  | type found present read =>
    exact .type (get_extends extended found) (encodedText_extends extended present) read
  | unreadString found present unread =>
    exact .unreadString (get_extends extended found) (encodedText_extends extended present) unread
  | unreadType found present unread =>
    exact .unreadType (get_extends extended found) (encodedText_extends extended present) unread
  | handle found kind => exact .handle (get_extends extended found) kind

section Opaque
variable {pool : Pool} {index : UInt16}

theorem isOpaqueText_of_encoded (present : pool.encodedText index = .ok stored) :
    pool.isOpaqueText index = stored.text?.isNone := by
  have slot := (get_ok_iff.mp (encodedText_ok_iff.mp present)).1
  simp [isOpaqueText, slot]

theorem isOpaqueText_of_text {string : String} (found : pool.text index = .ok string) :
    pool.isOpaqueText index = false := by
  obtain ⟨stored, present, read⟩ := text_ok_iff.mp found
  simp [isOpaqueText_of_encoded present, read]

theorem hasOpaquePart_of_className (found : pool.className index = .ok name) :
    pool.hasOpaquePart index = false := by
  obtain ⟨stored, holder, read⟩ := className_ok_iff.mp found
  obtain ⟨given, present, named⟩ := encodedClassName_ok_iff.mp holder
  have slot := (get_ok_iff.mp present).1
  simp [hasOpaquePart, slot, isOpaqueText_of_encoded named, read]

theorem hasOpaquePart_of_nameAndType (found : pool.nameAndType index = .ok pair) :
    pool.hasOpaquePart index = false := by
  obtain ⟨name, descriptor, present, named, described⟩ := nameAndType_ok_iff.mp found
  have slot := (get_ok_iff.mp present).1
  simp [hasOpaquePart, slot, isOpaqueText_of_text named, isOpaqueText_of_text described]

theorem reachesOpaqueText_of_member (found : pool.memberRef index = .ok member) :
    pool.reachesOpaqueText index = false := by
  obtain ⟨owner, signature, present, signed, owned⟩ := memberRef_ok_iff.mp found
  have slot := (get_ok_iff.mp present).1
  simp [reachesOpaqueText, slot, hasOpaquePart_of_className owned,
    hasOpaquePart_of_nameAndType signed]

theorem reachesOpaqueText_of_loads (loads : Loads pool index value) :
    pool.reachesOpaqueText index = true ↔
      value = .other index ∧ ∀ constant, pool.get index = .ok constant → constant.isHandle = false := by
  cases loads with
  | integer found | float found | long found | double found =>
    have slot := (get_ok_iff.mp found).1
    simp [reachesOpaqueText, isOpaqueText, hasOpaquePart, slot]
  | string found present read | type found present read =>
    have slot := (get_ok_iff.mp found).1
    have legible := isOpaqueText_of_encoded present
    rw [read] at legible
    simp only [reachesOpaqueText, hasOpaquePart, slot, legible]
    simp [isOpaqueText, slot]
  | unreadString found present unread | unreadType found present unread =>
    have slot := (get_ok_iff.mp found).1
    have illegible := isOpaqueText_of_encoded present
    rw [unread] at illegible
    simp only [reachesOpaqueText, hasOpaquePart, slot, illegible]
    simp [found, Constant.isHandle]
  | handle found kind =>
    have slot := (get_ok_iff.mp found).1
    rename_i constant
    cases constant <;> cases kind
    all_goals simp [reachesOpaqueText, isOpaqueText, hasOpaquePart, slot, found, Constant.isHandle]

end Opaque

end Pool
end ClassRename
