import ClassRename.Proofs.Pool.Requests

namespace ClassRename
open Effects

namespace Pool

def answered (action : Interning UInt16) (pool : Pool) : Option UInt16 :=
  match action pool with
  | .ok index _ => some index
  | .error .. => none

def Request.answer? : Request → Pool → Option UInt16
  | .constant given => answered (intern given)
  | .text string => answered (internText string)
  | .className name => answered (internClass name)
  | .nameAndType name descriptor => answered (internNameAndType name descriptor)
  | .member named => answered (internMember named)
  | .loadable value => answered (internLoadable value)
  | .body _ => fun _ => none

-- Nobody may ask for the constant that stands for no constant.
inductive Requested : Pool → Prop where
  | new : Requested .empty
  | parsed (read : Scan.pool before = .ok pool after) : Requested pool
  | served {request : Request} (requested : Requested pool)
      (usable : request ≠ .constant .unusable) : Requested (request.serve pool)

structure FirstAt (pool : Pool) (constant : Constant) (index : Nat) : Prop where
  held : pool.slots[index]? = some constant
  least : ∀ (earlier : Nat), earlier < index → pool.slots[earlier]? ≠ some constant

structure Indexed (pool : Pool) : Prop where
  bounded : pool.size ≤ capacity
  reserved : pool.slots[0]? = some .unusable
  second : ∀ (index : Nat) constant, pool.slots[index]? = some constant → constant.isWide = true →
    pool.slots[index + 1]? = some .unusable
  unusable : ∀ (index : Nat), pool.slots[index]? = some .unusable → index = 0 ∨
    ∃ (before : Nat) (wide : Constant), index = before + 1 ∧ pool.slots[before]? = some wide ∧
      wide.isWide = true
  listed : ∀ constant, constant ∈ pool.first ↔ constant ≠ .unusable ∧ constant ∈ pool.slots
  first : ∀ (constant : Constant) (index : UInt16), pool.first[constant]? = some index →
    pool.FirstAt constant index.toNat

structure Names (pool : Pool) (index : UInt16) : Prop where
  positive : 1 ≤ index.toNat
  inside : index.toNat < pool.size
  usable : ∃ constant, pool.slots[index.toNat]? = some constant ∧ constant ≠ .unusable

theorem slot_append_cases {pool : Pool} {index : Nat}
    (present : (pool.append constant).slots[index]? = some found) :
    pool.slots[index]? = some found ∨ (index = pool.size ∧ found = constant) ∨
      (index = pool.size + 1 ∧ constant.isWide = true ∧ found = .unusable) := by
  rw [slots_append, ← Array.getElem?_toList, Array.toList_appendList] at present
  rcases Nat.lt_or_ge index pool.size with before | behind
  · rw [List.getElem?_append_left (by simpa [size] using before), Array.getElem?_toList] at present
    exact .inl present
  · obtain ⟨further, rfl⟩ := Nat.exists_eq_add_of_le behind
    rw [List.getElem?_append_right (by simp [size])] at present
    simp only [size, Array.length_toList, Nat.add_sub_cancel_left] at present
    unfold Constant.slots at present
    split at present
    · rename_i wide
      rcases further with _ | _ | further
      · exact .inr (.inl ⟨rfl, by simpa [eq_comm] using present⟩)
      · exact .inr (.inr ⟨rfl, wide, by simpa [eq_comm] using present⟩)
      · simp at present
    · rcases further with _ | further
      · exact .inr (.inl ⟨rfl, by simpa [eq_comm] using present⟩)
      · simp at present

theorem slot_append_second {pool : Pool} (wide : constant.isWide = true) :
    (pool.append constant).slots[pool.size + 1]? = some .unusable := by
  rw [slots_append, ← Array.getElem?_toList, Array.toList_appendList,
    List.getElem?_append_right (by simp [size])]
  simp [size, Constant.slots, wide]

theorem empty_indexed : Indexed .empty := by
  have alone : ∀ (index : Nat) constant, Pool.empty.slots[index]? = some constant →
      index = 0 ∧ constant = .unusable := by
    intro index constant present
    cases index with
    | zero =>
      cases present
      exact ⟨rfl, rfl⟩
    | succ index => simp [empty] at present
  refine ⟨by decide, rfl, ?_, ?_, ?_, ?_⟩
  · intro index constant present wide
    obtain ⟨_, rfl⟩ := alone index constant present
    cases wide
  · intro index present
    exact .inl (alone index _ present).1
  · intro constant
    simp [empty]
  · intro constant index found
    simp [empty] at found

section Appending
variable {pool : Pool} {constant : Constant} (indexed : Indexed pool)
  (usable : constant ≠ .unusable) (room : pool.size + constant.slots.length ≤ capacity)
include indexed usable

theorem append_listed (given : Constant) :
    given ∈ (pool.append constant).first ↔
      given ≠ .unusable ∧ given ∈ (pool.append constant).slots := by
  change given ∈ pool.first.insertIfNew constant _ ↔ _
  rw [Std.HashMap.mem_insertIfNew, indexed.listed given, beq_iff_eq]
  constructor
  · intro known
    rcases known with rfl | ⟨meant, old⟩
    · exact ⟨usable, Array.mem_of_getElem? (slot_append pool constant)⟩
    · obtain ⟨index, present⟩ := Array.mem_iff_getElem?.mp old
      exact ⟨meant, Array.mem_of_getElem? ((extends_append pool constant).slot present)⟩
  · intro stated
    obtain ⟨meant, held⟩ := stated
    obtain ⟨index, present⟩ := Array.mem_iff_getElem?.mp held
    rcases slot_append_cases present with old | ⟨_, same⟩ | ⟨_, _, same⟩
    · exact .inr ⟨meant, Array.mem_of_getElem? old⟩
    · exact .inl same.symm
    · exact absurd same meant

include room

-- A constant that was there already keeps its index: the copy behind the last slot is not found.
theorem append_first {index : UInt16} (found : (pool.append constant).first[given]? = some index) :
    (pool.append constant).FirstAt given index.toNat := by
  change (pool.first.insertIfNew constant (UInt16.ofNat pool.size))[given]? = some index at found
  rw [Std.HashMap.getElem?_insertIfNew] at found
  split at found
  · rename_i fresh
    cases found
    obtain ⟨same, absent⟩ := fresh
    obtain rfl := beq_iff_eq.mp same
    rw [index_append room]
    refine ⟨slot_append pool constant, fun earlier less present => ?_⟩
    rcases slot_append_cases present with old | ⟨rfl, _⟩ | ⟨rfl, _⟩
    · exact absent ((indexed.listed constant).mpr ⟨usable, Array.mem_of_getElem? old⟩)
    · exact Nat.lt_irrefl _ less
    · exact Nat.not_succ_le_self _ (Nat.le_of_lt less)
  · obtain ⟨held, least⟩ := indexed.first given index found
    have inside : index.toNat < pool.size := (Array.getElem?_eq_some_iff.mp held).1
    refine ⟨(extends_append pool constant).slot held, fun earlier less present => ?_⟩
    rcases slot_append_cases present with old | ⟨rfl, _⟩ | ⟨rfl, _⟩
    · exact least earlier less old
    · exact Nat.lt_asymm less inside
    · omega

theorem append_indexed : Indexed (pool.append constant) := by
  have extended := extends_append pool constant
  refine ⟨by rw [size_append]; exact room, extended.slot indexed.reserved, ?_, ?_,
    append_listed indexed usable, fun _ _ => append_first indexed usable room⟩
  · intro index given present wide
    rcases slot_append_cases present with old | ⟨rfl, rfl⟩ | ⟨_, _, rfl⟩
    · exact extended.slot (indexed.second index given old wide)
    · exact slot_append_second wide
    · cases wide
  · intro index present
    rcases slot_append_cases present with old | ⟨_, same⟩ | ⟨rfl, wide, _⟩
    · rcases indexed.unusable index old with start | ⟨before, given, behind, held, wide⟩
      · exact .inl start
      · exact .inr ⟨before, given, behind, extended.slot held, wide⟩
    · exact absurd same.symm usable
    · exact .inr ⟨_, constant, rfl, slot_append pool constant, wide⟩

end Appending

theorem Grown.indexed (grown : Grown pool later) (indexed : Indexed pool) : Indexed later := by
  induction grown with
  | refl => exact indexed
  | add _ storable room ih => exact append_indexed ih storable.usable room

theorem Indexed.sound (indexed : Indexed pool) : Sound pool :=
  ⟨indexed.bounded, fun constant index found => (indexed.first constant index found).held⟩

theorem intern_indexed (usable : constant ≠ .unusable) (indexed : Indexed pool) :
    Indexed (left (intern constant) pool) ∧ Extends pool (left (intern constant) pool) := by
  rcases left_intern_cases constant pool with kept | ⟨room, added⟩
  · rw [kept]
    exact ⟨indexed, .refl pool⟩
  · rw [added]
    exact ⟨append_indexed indexed usable room, extends_append pool constant⟩

theorem serve_indexed {request : Request} (usable : request ≠ .constant .unusable)
    (indexed : Indexed pool) :
    Indexed (request.serve pool) ∧ Extends pool (request.serve pool) := by
  rcases request.constant_or_grown with ⟨given, rfl⟩ | grown
  · exact intern_indexed (fun same => usable (congrArg Request.constant same)) indexed
  · exact ⟨(grown pool).indexed indexed, (grown pool).extends⟩

theorem Requested.indexed (requested : Requested pool) : Indexed pool := by
  induction requested with
  | new => exact empty_indexed
  | parsed read => exact Grown.indexed (Scan.pool_codec.sound _ _ _ read).1 empty_indexed
  | served _ usable ih => exact (serve_indexed usable ih).1

def Resolves (action : Interning UInt16) : Prop :=
  ∀ pool index later, Sound pool → action pool = .ok index later →
    ∃ constant, later.get index = .ok constant

theorem resolves_intern (usable : constant ≠ .unusable) : Resolves (intern constant) :=
  fun _ _ _ sound ran => ⟨constant, get_of_intern sound usable ran⟩

theorem Resolves.bind {action : Interning α} {next : α → Interning UInt16} (first : Grows action)
    (second : ∀ value, Resolves (next value)) : Resolves (action >>= next) := by
  intro pool index later sound ran
  obtain ⟨value, middle, found, ended⟩ := run_bind_iff.mp ran
  exact second value middle index later ((first.ok found).sound sound) ended

theorem resolves_internText (text : String) : Resolves (internText text) := by
  unfold internText
  dsimp only
  split
  · intro pool index later _ ran
    cases ran
  · exact resolves_intern (by simp)

theorem resolves_internClass (name : String) : Resolves (internClass name) :=
  .bind (grows_internText name) fun _ => resolves_intern (by simp)

theorem resolves_internNameAndType (name descriptor : String) :
    Resolves (internNameAndType name descriptor) :=
  .bind (grows_internText name) fun _ => .bind (grows_internText descriptor) fun _ =>
    resolves_intern (by simp)

theorem resolves_internMember (member : MemberRef) : Resolves (internMember member) :=
  .bind (grows_internClass member.owner) fun _ => .bind (grows_internNameAndType _ _) fun _ =>
    resolves_intern (by simp)

theorem resolves_internLoadable (value : Loadable) : Resolves (internLoadable value) := by
  cases value with
  | integer | float | long | double => exact resolves_intern (by simp)
  | string text => exact .bind (grows_internText text) fun _ => resolves_intern (by simp)
  | type name => exact resolves_internClass name
  | other given =>
    intro pool index later _ ran
    simp only [internLoadable] at ran
    split at ran
    · rename_i constant found
      cases ran
      exact ⟨constant, found⟩
    · cases ran

theorem Indexed.names (indexed : Indexed pool) (found : pool.get index = .ok constant) :
    Names pool index := by
  obtain ⟨present, usable⟩ := get_ok_iff.mp found
  refine ⟨Nat.pos_of_ne_zero fun zero => ?_, (Array.getElem?_eq_some_iff.mp present).1,
    constant, present, usable⟩
  rw [zero, indexed.reserved] at present
  exact usable (Option.some.inj present).symm

theorem Resolves.names {action : Interning UInt16} (resolves : Resolves action)
    (sound : Sound pool) (indexed : Indexed (left action pool))
    (given : answered action pool = some index) : Names (left action pool) index := by
  unfold answered at given
  unfold left at indexed ⊢
  cases ran : action pool with
  | error error later =>
    rw [ran] at given
    cases given
  | ok found later =>
    rw [ran] at given indexed
    cases given
    obtain ⟨constant, present⟩ := resolves pool index later sound ran
    exact indexed.names present

theorem answer_names {request : Request} (usable : request ≠ .constant .unusable)
    (indexed : Indexed pool) (given : request.answer? pool = some index) :
    Names (request.serve pool) index := by
  have later := (serve_indexed usable indexed).1
  have sound := indexed.sound
  cases request with
  | constant constant =>
    exact (resolves_intern fun same => usable (congrArg Request.constant same)).names sound later given
  | text string => exact (resolves_internText string).names sound later given
  | className name => exact (resolves_internClass name).names sound later given
  | nameAndType name descriptor =>
    exact (resolves_internNameAndType name descriptor).names sound later given
  | member named => exact (resolves_internMember named).names sound later given
  | loadable value => exact (resolves_internLoadable value).names sound later given
  | body => cases given

-- The slots keep their roles and the constants their first indices whatever was asked for, and
-- whether it was granted or not; and what is answered can be relied on.
theorem requested_keeps (requested : Requested pool) :
    pool.Indexed ∧ ∀ request : Request, request ≠ .constant .unusable →
      Requested (request.serve pool) ∧ Extends pool (request.serve pool) ∧
        ∀ index, request.answer? pool = some index → Names (request.serve pool) index := by
  have indexed := requested.indexed
  exact ⟨indexed, fun request usable => ⟨.served requested usable, (serve_indexed usable indexed).2,
    fun index given => answer_names usable indexed given⟩⟩

def doubledPool : Pool :=
  ((Pool.empty.append (.integer 7)).append (.integer 7)).append (.classRef 9)

theorem doubledPool_built : doubledPool.Built :=
  .add (.add (.add .refl trivial (by decide)) trivial (by decide)) trivial (by decide)

theorem doubledPool_widened :
    (Request.loadable (.long 5)).serve doubledPool = doubledPool.append (.long 5) := by
  have added : intern (.long 5) doubledPool = .ok 4 (doubledPool.append (.long 5)) :=
    intern_fresh doubledPool_built.sound (by decide +kernel) (by decide)
  simp only [Request.serve, left, internLoadable, added]

theorem doubledPool_keeps : ∃ pool, Requested pool ∧
    pool.slots = #[.unusable, .integer 7, .integer 7, .classRef 9, .long 5, .unusable] ∧
    pool.Indexed ∧ ∀ request : Request, request ≠ .constant .unusable →
      Requested (request.serve pool) ∧ Extends pool (request.serve pool) ∧
        ∀ index, request.answer? pool = some index → Names (request.serve pool) index := by
  have read : Scan.pool (.start doubledPool.toBytes) = .ok doubledPool _ :=
    Scan.pool_codec.read doubledPool_built (Cursor.passed_all doubledPool.toBytes)
  have requested : Requested ((Request.loadable (.long 5)).serve doubledPool) :=
    .served (.parsed read) (by simp)
  refine ⟨_, requested, ?_, requested_keeps requested⟩
  rw [doubledPool_widened]
  decide +kernel

end Pool
end ClassRename
