import ClassRename.Body.Decode
import ClassRename.Proofs.Effects

namespace ClassRename
open Effects

namespace Offsets

def Ascending (offsets : Offsets) : Prop :=
  ∀ (i j first second : Nat), i < j → offsets[i]? = some first → offsets[j]? = some second →
    first < second

theorem ascending_of_pairwise {offsets : Offsets} (ordered : offsets.toList.Pairwise (· < ·)) :
    Ascending offsets := by
  intro i j first second less present next
  rw [← Array.getElem?_toList] at present next
  obtain ⟨_, rfl⟩ := List.getElem?_eq_some_iff.mp present
  obtain ⟨_, rfl⟩ := List.getElem?_eq_some_iff.mp next
  exact List.pairwise_iff_getElem.mp ordered _ _ _ _ less

theorem search_finds {offsets : Offsets} {position target : Nat} (ascending : Ascending offsets)
    (present : offsets[position]? = some target) (base size : Nat) (low : base ≤ position)
    (high : position < base + size) (inside : base + size ≤ offsets.size) :
    search offsets target base size = position := by
  fun_induction search offsets target base size with
  | case1 base size many half entry found ih =>
    apply ih
    · split
      · exact low
      · rename_i reached
        rcases Nat.lt_or_ge position (base + half) with before | behind
        · exact absurd (ascending _ _ _ _ before present found) reached
        · exact behind
    · split
      · rename_i less
        rcases Nat.lt_or_ge position (base + half) with before | behind
        · omega
        · rcases Nat.eq_or_lt_of_le behind with same | after
          · rw [same, present] at found
            cases found
            exact absurd less (Nat.lt_irrefl _)
          · exact absurd (ascending _ _ _ _ after found present) (Nat.lt_asymm less)
      · omega
    · split <;> omega
  | case2 base size many half missing =>
    rw [Array.getElem?_eq_none_iff] at missing
    omega
  | case3 base size few => omega

theorem position?_eq_some_iff {offsets : Offsets} {position target : Nat}
    (ascending : Ascending offsets) :
    position? offsets target = some position ↔ offsets[position]? = some target := by
  unfold position?
  dsimp only
  constructor
  · intro found
    split at found
    · rename_i present
      cases found
      exact present
    · cases found
  · intro present
    have inside : position < offsets.size := (Array.getElem?_eq_some_iff.mp present).1
    have met := search_finds ascending present 0 offsets.size (Nat.zero_le _) (by omega) (by omega)
    rw [met, if_pos present]

theorem instructionAt?_eq_some_iff {offsets : Offsets} {position target : Nat}
    (ascending : Ascending offsets) :
    instructionAt? offsets target = some position ↔
      offsets[position]? = some target ∧ position + 1 < offsets.size := by
  rw [instructionAt?, Option.filter_eq_some_iff, position?_eq_some_iff ascending,
    decide_eq_true_eq]

theorem distance?_eq_some_iff {offsets : Offsets} {position target : Nat} {distance : Int} :
    offsets.distance? position target = some distance ↔
      target + 1 < offsets.size ∧ ∃ here there, offsets[position]? = some here ∧
        offsets[target]? = some there ∧ distance = (there : Int) - here := by
  unfold distance?
  split
  · rename_i inside
    cases offsets[position]? <;> cases offsets[target]? <;> simp [inside, eq_comm]
  · rename_i outside
    simp [outside]

end Offsets

namespace Instruction

def targets : Instruction → List Nat
  | .branch _ target => [target]
  | .tableSwitch default _ _ targets => default :: targets
  | .lookupSwitch default pairs => default :: pairs.map Prod.snd
  | _ => []

def mapTargets (place : Nat → Nat) : Instruction → Instruction
  | .branch opcode target => .branch opcode (place target)
  | .tableSwitch default low high targets => .tableSwitch (place default) low high (targets.map place)
  | .lookupSwitch default pairs =>
    .lookupSwitch (place default) (pairs.map fun pair => (pair.1, place pair.2))
  | instruction => instruction

theorem mapTargets_of_none {instruction : Instruction} (none : instruction.targets = [])
    (place : Nat → Nat) : instruction.mapTargets place = instruction := by
  cases instruction <;> first | rfl | cases none

theorem eq_of_mapTargets {final raw : Instruction} {place : Nat → Nat}
    (same : final.mapTargets place = raw) (still : raw.targets = []) : final = raw := by
  subst same
  cases final with
  | branch | tableSwitch | lookupSwitch => cases still
  | field | method | load | other => rfl

section Retargeting
variable {place : Nat → Except Error Nat} {back : Nat → Nat} {Inside : Nat → Prop}
  (inverse : ∀ target position, place target = .ok position ↔ target = back position ∧ Inside position)
include inverse

theorem retarget_pair_ok_iff (pair found : Int32 × Nat) :
    (do return (pair.1, ← place pair.2) : Except Error (Int32 × Nat)) = .ok found ↔
      pair = (found.1, back found.2) ∧ Inside found.2 := by
  rcases pair with ⟨key, target⟩
  rcases found with ⟨foundKey, found⟩
  simp only [bind_ok_iff, pure_ok_iff, inverse, Prod.mk.injEq]
  constructor
  · intro stated
    rcases stated with ⟨_, ⟨rfl, inside⟩, rfl, rfl⟩
    exact ⟨⟨rfl, rfl⟩, inside⟩
  · intro stated
    rcases stated with ⟨⟨rfl, rfl⟩, inside⟩
    exact ⟨_, ⟨rfl, inside⟩, rfl, rfl⟩

-- Targets are replaced one by one; where a replacement can be undone, so can the whole.
theorem retarget_ok_iff (raw final : Instruction) :
    raw.retarget place = .ok final ↔
      raw = final.mapTargets back ∧ ∀ target ∈ final.targets, Inside target := by
  cases raw with
  | branch opcode target =>
    simp only [retarget, bind_ok_iff, pure_ok_iff, inverse]
    constructor
    · intro stated
      rcases stated with ⟨position, ⟨rfl, inside⟩, rfl⟩
      simpa [mapTargets, targets] using inside
    · intro stated
      rcases stated with ⟨same, inside⟩
      cases final <;> cases same
      exact ⟨_, ⟨rfl, inside _ (by simp [targets])⟩, rfl⟩
  | tableSwitch default low high entries =>
    simp only [retarget, bind_ok_iff, pure_ok_iff, mapM_ok_iff, inverse, forall₂_image_iff]
    constructor
    · intro stated
      rcases stated with ⟨first, ⟨rfl, inside⟩, others, ⟨rfl, all⟩, rfl⟩
      exact ⟨rfl, List.forall_mem_cons.mpr ⟨inside, all⟩⟩
    · intro stated
      rcases stated with ⟨same, inside⟩
      cases final <;> cases same
      obtain ⟨first, others⟩ := List.forall_mem_cons.mp inside
      exact ⟨_, ⟨rfl, first⟩, _, ⟨rfl, others⟩, rfl⟩
  | lookupSwitch default pairs =>
    simp only [retarget, bind_ok_iff, pure_ok_iff, mapM_ok_iff, inverse, retarget_pair_ok_iff inverse,
      forall₂_image_iff]
    constructor
    · intro stated
      rcases stated with ⟨first, ⟨rfl, inside⟩, others, ⟨rfl, all⟩, rfl⟩
      refine ⟨rfl, List.forall_mem_cons.mpr ⟨inside, ?_⟩⟩
      intro target member
      obtain ⟨pair, present, rfl⟩ := List.mem_map.mp member
      exact all pair present
    · intro stated
      rcases stated with ⟨same, inside⟩
      cases final <;> cases same
      obtain ⟨first, others⟩ := List.forall_mem_cons.mp inside
      have all : ∀ pair ∈ _, Inside (Prod.snd pair) := fun pair member =>
        others _ (List.mem_map_of_mem member)
      exact ⟨_, ⟨rfl, first⟩, _, ⟨rfl, all⟩, rfl⟩
  | field | method | load | other =>
    simp only [retarget, pure_ok_iff]
    constructor
    · intro same
      subst same
      simp [mapTargets, targets]
    · intro stated
      rcases stated with ⟨same, _⟩
      cases final <;> cases same
      all_goals rfl

end Retargeting
end Instruction

namespace Body

theorem resolveTarget_ok_iff {offsets : Offsets} (ascending : offsets.Ascending)
    (target position : Nat) :
    resolveTarget offsets target = .ok position ↔
      target = offsets.getD position 0 ∧ position + 1 < offsets.size := by
  have found : offsets.instructionAt? target = some position ↔
      offsets[position]? = some target ∧ position + 1 < offsets.size :=
    Offsets.instructionAt?_eq_some_iff ascending
  unfold resolveTarget
  cases at_ : offsets.instructionAt? target with
  | none =>
    rw [at_] at found
    constructor
    · intro impossible
      cases impossible
    · intro stated
      rcases stated with ⟨rfl, inside⟩
      have present : offsets[position]? = some (offsets.getD position 0) := by
        rw [Array.getD_eq_getD_getElem?, Array.getElem?_eq_getElem (by omega), Option.getD_some]
      exact absurd (found.mpr ⟨present, inside⟩) (by simp)
  | some given =>
    rw [at_] at found
    simp only [Except.ok.injEq]
    rw [Option.some.injEq] at found
    rw [found]
    constructor
    · intro stated
      rcases stated with ⟨present, inside⟩
      exact ⟨by simp [present], inside⟩
    · intro stated
      rcases stated with ⟨rfl, inside⟩
      refine ⟨?_, inside⟩
      rw [Array.getD_eq_getD_getElem?, Array.getElem?_eq_getElem (by omega), Option.getD_some]

end Body
end ClassRename
