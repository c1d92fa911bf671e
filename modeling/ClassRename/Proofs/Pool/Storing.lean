import ClassRename.Proofs.Pool.Indexing

namespace ClassRename

namespace Pool

def Rereads (pool : Pool) : Prop :=
  ∃ again after, Scan.pool (.start pool.toBytes) = .ok again after ∧ after.rest = [] ∧
    again.slots = pool.slots

inductive Granted : Pool → List Request → Pool → Prop where
  | none : Granted pool [] pool
  | next (answered : request.answer? before = some index)
      (others : Granted (request.serve before) requests after) :
      Granted before (request :: requests) after

def Request.Storable : Request → Prop
  | .constant given => given.Storable
  | _ => True

-- What the slots of a pool in a file are like.
structure Tidy (slots : Array Constant) : Prop where
  stored : ∀ (index : Nat) constant, slots[index]? = some constant →
    constant = .unusable ∨ constant.Storable
  unusable : ∀ (index : Nat), slots[index]? = some .unusable → index = 0 ∨
    ∃ (before : Nat) (wide : Constant), index = before + 1 ∧ slots[before]? = some wide ∧
      wide.isWide = true

theorem Built.indexed (built : Built pool) : Indexed pool := Grown.indexed built empty_indexed

theorem Built.tidy (built : Built pool) : Tidy pool.slots := by
  refine ⟨?_, built.indexed.unusable⟩
  induction built with
  | refl =>
    intro index constant present
    cases index with
    | zero =>
      cases present
      exact .inl rfl
    | succ index => simp [empty] at present
  | add _ storable _ ih =>
    intro index constant present
    rcases slot_append_cases present with old | ⟨_, rfl⟩ | ⟨_, _, rfl⟩
    · exact ih index constant old
    · exact .inr storable
    · exact .inl rfl

theorem Tidy.earlier {earlier later : Pool} (extended : Extends earlier later) (tidy : Tidy later.slots) :
    Tidy earlier.slots := by
  refine ⟨fun index constant present => tidy.stored index constant (extended.slot present), ?_⟩
  intro index present
  rcases tidy.unusable index (extended.slot present) with start | ⟨before, wide, rfl, held, doubled⟩
  · exact .inl start
  · have inside : before < earlier.slots.size :=
      Nat.lt_of_succ_lt (Array.getElem?_eq_some_iff.mp present).1
    have same := extended.slot (Array.getElem?_eq_getElem inside)
    rw [held] at same
    exact .inr ⟨before, wide, rfl, by rw [Array.getElem?_eq_getElem inside, ← same], doubled⟩

theorem Built.rereads (built : Built pool) : Rereads pool :=
  ⟨pool, _, Scan.pool_codec.read built (Cursor.passed_all pool.toBytes), rfl, rfl⟩

theorem Rereads.built (rereads : Rereads pool) : ∃ again, Built again ∧ again.slots = pool.slots := by
  obtain ⟨again, _, read, _, same⟩ := rereads
  exact ⟨again, (Scan.pool_codec.sound _ _ _ read).1, same⟩

theorem serve_grown (request : Request) (storable : request.Storable) (pool : Pool) :
    Grown pool (request.serve pool) := by
  rcases request.constant_or_grown with ⟨given, rfl⟩ | grown
  · exact (grows_intern storable).left pool
  · exact grown pool

theorem intern_extends (given : Constant) (pool : Pool) : Extends pool (left (intern given) pool) := by
  rcases left_intern_cases given pool with kept | ⟨_, added⟩
  · rw [kept]
    exact .refl pool
  · rw [added]
    exact extends_append pool given

theorem serve_extends (request : Request) (pool : Pool) : Extends pool (request.serve pool) := by
  rcases request.constant_or_grown with ⟨given, rfl⟩ | grown
  · exact intern_extends given pool
  · exact (grown pool).extends

theorem Granted.extends (granted : Granted before requests after) : Extends before after := by
  induction granted with
  | none => exact .refl _
  | next _ _ ih => exact (serve_extends _ _).trans ih

theorem Granted.grown (granted : Granted before requests after)
    (storable : ∀ request ∈ requests, request.Storable) : Grown before after := by
  induction granted with
  | none => exact .refl
  | next _ _ ih =>
    obtain ⟨first, others⟩ := List.forall_mem_cons.mp storable
    exact (serve_grown _ first _).trans (ih others)

theorem slot_of_intern (absent : given ∉ pool.first)
    (granted : answered (intern given) pool = some index) :
    (left (intern given) pool).slots[pool.size]? = some given := by
  unfold answered intern at granted
  unfold left intern
  rw [Std.HashMap.getElem?_eq_none absent] at granted ⊢
  dsimp only at granted ⊢
  by_cases room : pool.size + given.slots.length ≤ capacity
  · rw [if_pos room]
    exact slot_append pool given
  · rw [if_neg room] at granted
    cases granted

theorem storable_of_granted {request : Request} (built : Built pool) (granted : request.answer? pool = some index)
    (tidy : Tidy (request.serve pool).slots) : request.Storable := by
  cases request with
  | constant given =>
    by_contra refused
    have absent : given ∉ pool.first := by
      intro known
      obtain ⟨usable, held⟩ := (built.indexed.listed given).mp known
      obtain ⟨position, present⟩ := Array.mem_iff_getElem?.mp held
      rcases built.tidy.stored position given present with unusable | storable
      · exact usable unusable
      · exact refused storable
    have last := slot_of_intern absent granted
    rcases tidy.stored pool.size given last with rfl | storable
    · rcases tidy.unusable pool.size last with none | ⟨before, wide, behind, held, doubled⟩
      · have reserved := (Array.getElem?_eq_some_iff.mp built.indexed.reserved).1
        exact Nat.ne_of_gt reserved none
      · have old : pool.slots[before]? = some wide := by
          have inside : before < pool.slots.size := by
            rw [← size, behind]
            exact Nat.lt_succ_self before
          have same := (serve_extends (.constant .unusable) pool).slot
            (Array.getElem?_eq_getElem inside)
          rw [Array.getElem?_eq_getElem inside, ← same]
          exact held
        have second := built.indexed.second before wide old doubled
        rw [← behind] at second
        exact Nat.lt_irrefl _ (Array.getElem?_eq_some_iff.mp second).1
    · exact refused storable
  | text | className | nameAndType | member | loadable | body => trivial

theorem Granted.storable (granted : Granted before requests after) (built : Built before)
    (tidy : Tidy after.slots) : ∀ request ∈ requests, request.Storable := by
  induction granted with
  | none => exact List.forall_mem_nil _
  | next answered others ih =>
    have first := storable_of_granted built answered (tidy.earlier others.extends)
    exact List.forall_mem_cons.mpr ⟨first, ih (built.grow (serve_grown _ first _)) tidy⟩

theorem slotless_sound : Sound slotless := by
  refine ⟨by decide, ?_⟩
  intro constant index found
  simp [slotless] at found

theorem first_of_grown (grown : Grown slotless later) : later.slots = #[] ∨
    ∃ constant, later.slots[0]? = some constant ∧ constant ≠ .unusable := by
  induction grown with
  | refl => exact .inl rfl
  | @add middle constant _ storable _ ih =>
    rcases ih with none | ⟨held, present, usable⟩
    · have first := slot_append middle constant
      rw [size, none] at first
      exact .inr ⟨constant, first, storable.usable⟩
    · exact .inr ⟨held, (extends_append middle constant).slot present, usable⟩

theorem first_of_answered {action : Interning UInt16} (grows : Grows action)
    (resolves : Resolves action) (granted : answered action slotless = some index) :
    ∃ constant, (left action slotless).slots[0]? = some constant ∧ constant ≠ .unusable := by
  have grown := grows.left slotless
  unfold answered at granted
  unfold left at grown ⊢
  cases ran : action slotless with
  | error error later =>
    rw [ran] at granted
    cases granted
  | ok found later =>
    rw [ran] at grown
    obtain ⟨held, resolved⟩ := resolves slotless found later slotless_sound ran
    rcases first_of_grown grown with none | some
    · have present := (get_ok_iff.mp resolved).1
      rw [none] at present
      cases present
    · exact some

-- What a pool without the reserved slot is first granted takes the place of that slot.
theorem first_of_granted {request : Request} (granted : request.answer? slotless = some index) :
    request = .constant .unusable ∨
      ∃ constant, (request.serve slotless).slots[0]? = some constant ∧ constant ≠ .unusable := by
  cases request with
  | constant given =>
    by_cases unusable : given = .unusable
    · exact .inl (congrArg Request.constant unusable)
    · exact .inr ⟨given, slot_of_intern (by simp [slotless]) granted, unusable⟩
  | text string => exact .inr (first_of_answered (grows_internText _) (resolves_internText _) granted)
  | className name =>
    exact .inr (first_of_answered (grows_internClass _) (resolves_internClass _) granted)
  | nameAndType name descriptor =>
    exact .inr (first_of_answered (grows_internNameAndType _ _) (resolves_internNameAndType _ _)
      granted)
  | member named =>
    exact .inr (first_of_answered (grows_internMember _) (resolves_internMember _) granted)
  | loadable value =>
    exact .inr (first_of_answered (grows_internLoadable _) (resolves_internLoadable _) granted)
  | body => cases granted

inductive Start : Pool → Prop where
  | new : Start .empty
  | parsed (read : Scan.pool before = .ok pool after) : Start pool

theorem Start.built (start : Start pool) : Built pool := by
  cases start with
  | new => exact .refl
  | parsed read => exact (Scan.pool_codec.sound _ _ _ read).1

-- A pool is read again exactly if nobody asked it for a constant that the format has no place for.
-- One that began without the reserved slot is not, unless the first thing it was asked for was to
-- fill that slot.
theorem granted_rereads (granted : Granted before requests after) :
    (Start before → (Rereads after ↔ ∀ request ∈ requests, request.Storable)) ∧
    (before = slotless → Rereads after →
      ∃ others, requests = .constant .unusable :: others) := by
  constructor
  · intro start
    constructor
    · intro rereads
      obtain ⟨again, built, same⟩ := rereads.built
      exact granted.storable start.built (same ▸ built.tidy)
    · intro storable
      exact Built.rereads (start.built.grow (granted.grown storable))
  · rintro rfl rereads
    obtain ⟨again, built, same⟩ := rereads.built
    have reserved := built.indexed.reserved
    rw [same] at reserved
    cases granted with
    | none => cases reserved
    | next answered others =>
      rcases first_of_granted answered with rfl | ⟨constant, present, usable⟩
      · exact ⟨_, rfl⟩
      · have first := others.extends.slot present
        rw [reserved] at first
        exact absurd (Option.some.inj first).symm usable

theorem granted_fresh (absent : given ∉ pool.first)
    (room : pool.size + given.slots.length ≤ capacity)
    (others : Granted (pool.append given) requests after) :
    Granted pool (.constant given :: requests) after := by
  have added : intern given pool = .ok (UInt16.ofNat pool.size) (pool.append given) := by
    unfold intern
    rw [Std.HashMap.getElem?_eq_none absent]
    exact if_pos room
  have answered : (Request.constant given).answer? pool = some (UInt16.ofNat pool.size) := by
    change answered (intern given) pool = _
    rw [Pool.answered, added]
  have served : (Request.constant given).serve pool = pool.append given := by
    change left (intern given) pool = _
    rw [left, added]
  exact .next answered (served ▸ others)

theorem wideRequests_reread :
    ∃ pool, Granted .empty [.constant (.string 9), .constant (.long 5)] pool ∧ pool.Rereads := by
  have second : Constant.long 5 ∉ (Pool.empty.append (.string 9)).first := by
    simp [append, empty, Std.HashMap.mem_insertIfNew]
  have granted := granted_fresh (show Constant.string 9 ∉ Pool.empty.first by simp [empty])
    (by decide) (granted_fresh second (by decide) .none)
  obtain ⟨rereads, _⟩ := granted_rereads granted
  exact ⟨_, granted, (rereads .new).mpr (by simp [Request.Storable, Constant.Storable])⟩

theorem unread_of_granted (granted : Granted .empty [request] pool) (refused : ¬ request.Storable) :
    ¬ pool.Rereads := by
  intro rereads
  obtain ⟨again, built, same⟩ := rereads.built
  exact refused (granted.storable .refl (same ▸ built.tidy) request List.mem_cons_self)

-- The constant that stands for no constant gets a slot, and a text that is too long gets an entry
-- with another length. A pool that began without the reserved slot states a count of nothing.
theorem unusable_unread : (∃ pool, Granted .empty [.constant .unusable] pool ∧ ¬ pool.Rereads) ∧
    (∃ pool, Granted .empty [.constant (.utf8 ⟨List.replicate 65536 0x61⟩)] pool ∧
      ¬ pool.Rereads) ∧
    ¬ slotless.Rereads := by
  refine ⟨?_, ?_, ?_⟩
  · have granted := granted_fresh (show Constant.unusable ∉ Pool.empty.first by simp [empty])
      (by decide) .none
    exact ⟨_, granted, unread_of_granted granted id⟩
  · have absent : Constant.utf8 ⟨List.replicate 65536 0x61⟩ ∉ Pool.empty.first :=
      Std.HashMap.not_mem_empty
    have granted := granted_fresh absent (by decide) .none
    refine ⟨_, granted, unread_of_granted granted ?_⟩
    change ¬ (List.replicate 65536 (0x61 : UInt8)).length < 65536
    rw [List.length_replicate]
    exact Nat.lt_irrefl 65536
  · intro rereads
    obtain ⟨again, built, same⟩ := rereads.built
    have reserved := built.indexed.reserved
    rw [same] at reserved
    cases reserved

end Pool
end ClassRename
