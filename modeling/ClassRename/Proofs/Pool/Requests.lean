import ClassRename.Body.Encode
import ClassRename.Proofs.Pool.Codec

namespace ClassRename

namespace Pool

theorem grows_mapM {action : α → Interning β} (each : ∀ item, Grows (action item)) (items : List α) :
    Grows (items.mapM action) := by
  induction items with
  | nil => exact grows_pure []
  | cons item rest ih =>
    rw [List.mapM_cons]
    exact (each item).bind fun _ => ih.bind fun _ => grows_pure _

theorem grows_resolve (instruction : Instruction) : Grows (Body.resolve instruction) := by
  cases instruction with
  | field | method => exact (grows_memberIndex _ _).bind fun _ => grows_pure _
  | load => exact (grows_loadableIndex _ _).bind fun _ => grows_pure _
  | branch | tableSwitch | lookupSwitch | other => exact grows_pure _

theorem grows_encode (instructions : List Instruction) : Grows (Body.encode instructions) := by
  refine (grows_mapM grows_resolve instructions).bind fun forms => ?_
  cases Body.encodeForms forms with
  | ok body => exact grows_pure body
  | error error => exact grows_throw error

inductive Request where
  | constant (given : Constant)
  | text (string : String)
  | className (name : String)
  | nameAndType (name descriptor : String)
  | member (named : MemberRef)
  | loadable (value : Loadable)
  | body (instructions : List Instruction)

def left (action : Interning α) (pool : Pool) : Pool :=
  match action pool with
  | .ok _ later | .error _ later => later

def Request.serve : Request → Pool → Pool
  | .constant given => left (intern given)
  | .text string => left (internText string)
  | .className name => left (internClass name)
  | .nameAndType name descriptor => left (internNameAndType name descriptor)
  | .member named => left (internMember named)
  | .loadable value => left (internLoadable value)
  | .body instructions => left (Body.encode instructions)

inductive Reachable : Pool → Prop where
  | new : Reachable .empty
  | parsed (read : Scan.pool before = .ok pool after) : Reachable pool
  | served (reachable : Reachable pool) (request : Request) : Reachable (request.serve pool)

theorem Grows.left {action : Interning α} (grows : Grows action) (pool : Pool) :
    Grown pool (left action pool) := by
  have grown := grows pool
  unfold Pool.left
  split <;> rename_i ran <;> rwa [ran] at grown

-- A constant of the caller's own is added as it is, also one that no class could store.
theorem left_intern_cases (constant : Constant) (pool : Pool) :
    left (intern constant) pool = pool ∨
      (pool.size + constant.slots.length ≤ capacity ∧
        left (intern constant) pool = pool.append constant) := by
  unfold left intern
  cases pool.first[constant]? with
  | some index => exact .inl rfl
  | none =>
    dsimp only
    by_cases room : pool.size + constant.slots.length ≤ capacity
    · rw [if_pos room]
      exact .inr ⟨room, rfl⟩
    · rw [if_neg room]
      exact .inl rfl

theorem intern_sound (sound : Sound pool) (constant : Constant) :
    Sound (left (intern constant) pool) := by
  rcases left_intern_cases constant pool with kept | ⟨room, added⟩
  · rw [kept]
    exact sound
  · rw [added]
    exact append_sound sound room

theorem Request.constant_or_grown (request : Request) :
    (∃ given, request = .constant given) ∨ ∀ pool, Grown pool (request.serve pool) := by
  cases request with
  | constant given => exact .inl ⟨given, rfl⟩
  | text string => exact .inr (grows_internText string).left
  | className name => exact .inr (grows_internClass name).left
  | nameAndType name descriptor => exact .inr (grows_internNameAndType name descriptor).left
  | member named => exact .inr (grows_internMember named).left
  | loadable value => exact .inr (grows_internLoadable value).left
  | body instructions => exact .inr (grows_encode instructions).left

theorem serve_sound (request : Request) (sound : Sound pool) : Sound (request.serve pool) := by
  rcases request.constant_or_grown with ⟨given, rfl⟩ | grown
  · exact intern_sound sound given
  · exact (grown pool).sound sound

theorem Reachable.sound (reachable : Reachable pool) : Sound pool := by
  induction reachable with
  | new => exact empty_sound
  | parsed read => exact Built.sound (Scan.pool_codec.sound _ _ _ read).1
  | served _ request ih => exact serve_sound request ih

theorem Built.reachable (built : Built pool) : Reachable pool :=
  .parsed (Scan.pool_codec.read built (Cursor.passed_all pool.toBytes))

end Pool
end ClassRename
