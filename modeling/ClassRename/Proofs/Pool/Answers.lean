import ClassRename.Proofs.Pool.Indexing

namespace ClassRename
open Effects

namespace Pool

def Remembers (earlier later : Pool) : Prop :=
  ∀ (constant : Constant) (index : UInt16), earlier.first[constant]? = some index →
    later.first[constant]? = some index

theorem Remembers.refl (pool : Pool) : Remembers pool pool := fun _ _ found => found

theorem Remembers.trans (left : Remembers before middle) (right : Remembers middle after) :
    Remembers before after :=
  fun constant index found => right constant index (left constant index found)

theorem remembers_append (pool : Pool) (constant : Constant) :
    Remembers pool (pool.append constant) := by
  intro given index found
  change (pool.first.insertIfNew constant (UInt16.ofNat pool.size))[given]? = some index
  rw [Std.HashMap.getElem?_insertIfNew]
  split
  · rename_i fresh
    have known : given ∈ pool.first := Std.HashMap.mem_iff_isSome_getElem?.mpr (by simp [found])
    rw [← beq_iff_eq.mp fresh.1] at known
    exact absurd known fresh.2
  · exact found

theorem Grown.remembers (grown : Grown pool later) : Remembers pool later := by
  induction grown with
  | refl => exact .refl pool
  | @add middle constant _ _ _ ih => exact ih.trans (remembers_append middle constant)

-- An answer that was given once is given again, and nothing is added for it, by every pool that
-- remembers as much as the one that was left.
def Lasting (action : Interning α) : Prop :=
  ∀ pool value later, action pool = .ok value later →
    ∀ further, Remembers later further → action further = .ok value further

theorem lasting_intern (constant : Constant) : Lasting (intern constant) := by
  intro pool index later ran further remembers
  have known : later.first[constant]? = some index := by
    unfold intern at ran
    split at ran
    · rename_i found
      cases ran
      exact found
    · rename_i missing
      split at ran
      · cases ran
        change (pool.first.insertIfNew constant (UInt16.ofNat pool.size))[constant]? = _
        have absent : constant ∉ pool.first := by
          rw [Std.HashMap.mem_iff_isSome_getElem?, missing]
          exact Bool.false_ne_true
        rw [Std.HashMap.getElem?_insertIfNew, if_pos ⟨beq_self_eq_true constant, absent⟩]
      · cases ran
  unfold intern
  rw [remembers constant index known]

theorem Lasting.bind {action : Interning α} {next : α → Interning β} (first : Lasting action)
    (grows : ∀ value, Grows (next value)) (second : ∀ value, Lasting (next value)) :
    Lasting (action >>= next) := by
  intro pool answer later ran further remembers
  obtain ⟨value, middle, found, ended⟩ := run_bind_iff.mp ran
  have since : Remembers middle further := ((grows value).ok ended).remembers.trans remembers
  exact run_bind_iff.mpr ⟨value, further, first pool value middle found further since,
    second value middle answer later ended further remembers⟩

theorem lasting_internText (text : String) : Lasting (internText text) := by
  unfold internText
  dsimp only
  split
  · intro pool index later ran
    cases ran
  · exact lasting_intern _

theorem lasting_internClass (name : String) : Lasting (internClass name) :=
  (lasting_internText name).bind (fun _ => grows_intern trivial) fun _ => lasting_intern _

theorem lasting_internNameAndType (name descriptor : String) :
    Lasting (internNameAndType name descriptor) :=
  (lasting_internText name).bind
    (fun _ => (grows_internText descriptor).bind fun _ => grows_intern trivial) fun _ =>
      (lasting_internText descriptor).bind (fun _ => grows_intern trivial) fun _ => lasting_intern _

theorem lasting_internMember (member : MemberRef) : Lasting (internMember member) :=
  (lasting_internClass member.owner).bind
    (fun _ => (grows_internNameAndType _ _).bind fun _ => grows_intern trivial) fun _ =>
      (lasting_internNameAndType _ _).bind (fun _ => grows_intern trivial) fun _ => lasting_intern _

theorem lasting_internLoadable (value : Loadable) (named : ∀ given, value ≠ .other given) :
    Lasting (internLoadable value) := by
  cases value with
  | integer | float | long | double => exact lasting_intern _
  | string text =>
    exact (lasting_internText text).bind (fun _ => grows_intern trivial) fun _ => lasting_intern _
  | type name => exact lasting_internClass name
  | other given => exact absurd rfl (named given)

structure Undisturbed (earlier later : Pool) : Prop where
  memberRef : ∀ (index : UInt16) member, earlier.memberRef index = .ok member →
    later.memberRef index = .ok member
  className : ∀ (index : UInt16) name, earlier.className index = .ok name →
    later.className index = .ok name
  nameAndType : ∀ (index : UInt16) pair, earlier.nameAndType index = .ok pair →
    later.nameAndType index = .ok pair
  loadable : ∀ (index : UInt16) value, earlier.loadable index = .ok value →
    later.loadable index = .ok value

theorem Extends.undisturbed (extended : Extends earlier later) : Undisturbed earlier later :=
  ⟨fun _ _ => memberRef_extends extended, fun _ _ => className_extends extended,
    fun _ _ => nameAndType_extends extended, fun _ _ => loadable_extends extended⟩

-- If the action answers in this pool, the index means what it should, and leads through no text
-- that cannot be read; the pool that is left gives the same answer and stays as it is; and nothing
-- that was known is disturbed.
def Reliable (pool : Pool) (action : Interning UInt16) (Means : Pool → UInt16 → Prop) : Prop :=
  ∀ index later, action pool = .ok index later →
    Means later index ∧ later.reachesOpaqueText index = false ∧
      action later = .ok index later ∧ Undisturbed pool later

theorem reliable_of_lasting {action : Interning UInt16} {Means : Pool → UInt16 → Prop}
    (grows : Grows action) (lasting : Lasting action)
    (means : ∀ index later, action pool = .ok index later → Means later index)
    (legible : ∀ index later, Means later index → later.reachesOpaqueText index = false) :
    Reliable pool action Means := by
  intro index later ran
  have meant := means index later ran
  exact ⟨meant, legible index later meant, lasting pool index later ran later (.refl later),
    (grows.ok ran).extends.undisturbed⟩

theorem reachesOpaqueText_of_className {pool : Pool} (found : pool.className index = .ok name) :
    pool.reachesOpaqueText index = false := by
  obtain ⟨_, holder, _⟩ := className_ok_iff.mp found
  obtain ⟨_, present, _⟩ := encodedClassName_ok_iff.mp holder
  have slot := (get_ok_iff.mp present).1
  simp [reachesOpaqueText, isOpaqueText, slot, hasOpaquePart_of_className found]

theorem reachesOpaqueText_of_loadable {pool : Pool} (loaded : pool.loadable index = .ok value)
    (named : ∀ given, value ≠ .other given) : pool.reachesOpaqueText index = false := by
  rw [← Bool.not_eq_true, reachesOpaqueText_of_loads (loadable_ok_iff.mp loaded)]
  intro stated
  exact named index stated.1

theorem requested_reliable (requested : Requested pool) :
    (∀ member : MemberRef,
      Reliable pool (internMember member) fun later index => later.memberRef index = .ok member) ∧
    (∀ name : String,
      Reliable pool (internClass name) fun later index => later.className index = .ok name) ∧
    ∀ value : Loadable, (∀ given, value ≠ .other given) →
      Reliable pool (internLoadable value) fun later index => later.loadable index = .ok value := by
  have sound := requested.indexed.sound
  refine ⟨?_, ?_, ?_⟩
  · intro member
    exact reliable_of_lasting (grows_internMember member) (lasting_internMember member)
      (fun _ _ => memberRef_of_internMember sound) fun _ _ => reachesOpaqueText_of_member
  · intro name
    exact reliable_of_lasting (grows_internClass name) (lasting_internClass name)
      (fun _ _ => className_of_internClass sound) fun _ _ => reachesOpaqueText_of_className
  · intro value named
    exact reliable_of_lasting (grows_internLoadable value) (lasting_internLoadable value named)
      (fun _ _ => loadable_of_internLoadable sound fun given same => absurd same (named given))
      fun _ _ loaded => reachesOpaqueText_of_loadable loaded named

theorem overlong_reliable :
    Requested (.named [0xC1, 0x81]) ∧ (Pool.named [0xC1, 0x81]).className 2 = .ok "A" ∧
    ∃ later, internClass "A" (.named [0xC1, 0x81]) = .ok 4 later ∧ later.className 4 = .ok "A" ∧
      later.reachesOpaqueText 4 = false ∧ internClass "A" later = .ok 4 later ∧
      later.className 2 = .ok "A" := by
  let given := Pool.named [0xC1, 0x81]
  let spelled := given.append (.utf8 ⟨[0x41]⟩)
  have built : given.Built := named_built (by decide)
  have requested : Requested given :=
    .parsed (Scan.pool_codec.read built (Cursor.passed_all given.toBytes))
  have named : given.className 2 = .ok "A" := by decide +kernel
  have text : internText "A" given = .ok 3 spelled :=
    intern_fresh built.sound (by decide +kernel) (by decide)
  have owner : intern (.classRef 3) spelled = .ok 4 (spelled.append (.classRef 3)) :=
    intern_fresh (append_sound built.sound (by decide)) (by decide +kernel) (by decide)
  have ran : internClass "A" given = .ok 4 (spelled.append (.classRef 3)) :=
    run_bind_iff.mpr ⟨3, spelled, text, owner⟩
  obtain ⟨meant, legible, again, undisturbed⟩ := (requested_reliable requested).2.1 "A" 4 _ ran
  exact ⟨requested, named, _, ran, meant, legible, again, undisturbed.className 2 "A" named⟩

end Pool
end ClassRename
