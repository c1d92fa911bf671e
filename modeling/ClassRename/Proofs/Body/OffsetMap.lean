import ClassRename.Body.OffsetMap
import ClassRename.Proofs.Body.Targets

namespace ClassRename
open Effects

namespace Offsets

theorem Ascending.le {offsets : Offsets} {i j : Nat} (ascending : offsets.Ascending) (order : i ≤ j)
    (first : offsets[i]? = some before) (second : offsets[j]? = some after) : before ≤ after := by
  rcases Nat.eq_or_lt_of_le order with rfl | less
  · rw [first] at second
    exact Nat.le_of_eq (Option.some.inj second)
  · exact Nat.le_of_lt (ascending i j before after less first second)

def Moved (old new : Offsets) (before after : Nat) : Prop :=
  ∃ position : Nat, old[position]? = some before ∧ new[position]? = some after

theorem Moved.symm {old new : Offsets} (moved : Moved old new before after) :
    Moved new old after before := by
  obtain ⟨position, first, second⟩ := moved
  exact ⟨position, second, first⟩

theorem Moved.strict {old new : Offsets} (left : old.Ascending) (right : new.Ascending)
    (first : Moved old new start newStart) (second : Moved old new stop newStop)
    (order : start < stop) : newStart < newStop := by
  obtain ⟨i, oldStart, start⟩ := first
  obtain ⟨j, oldStop, stop⟩ := second
  rcases Nat.lt_or_ge i j with before | behind
  · exact right i j _ _ before start stop
  · have wrong := left.le behind oldStop oldStart
    omega

theorem Moved.mono {old new : Offsets} (left : old.Ascending) (right : new.Ascending)
    (first : Moved old new start newStart) (second : Moved old new stop newStop)
    (order : start ≤ stop) : newStart ≤ newStop := by
  by_contra less
  have back := second.symm.strict right left first.symm (Nat.lt_of_not_le less)
  omega

end Offsets

namespace OffsetMap

-- Two ascending lists of the same length, the new one of offsets that two bytes can hold.
structure Valid (map : OffsetMap) : Prop where
  old : map.old.Ascending
  new : map.new.Ascending
  paired : map.old.size = map.new.size
  short : ∀ (position offset : Nat), map.new[position]? = some offset → offset < 65536

theorem pair_ok_iff {old new : Offsets} : pair old new = .ok map ↔ old.size = new.size ∧ map = ⟨old, new⟩ := by
  unfold pair
  split
  · rename_i same
    simp [same, eq_comm]
  · rename_i different
    simp [different]

theorem Valid.translate_ok_iff {map : OffsetMap} (valid : map.Valid) {before after : UInt16} :
    map.translate before = .ok after ↔
      Offsets.Moved map.old map.new before.toNat after.toNat := by
  unfold translate
  constructor
  · intro found
    split at found
    · rename_i position looked
      cases found
      have present := (Offsets.position?_eq_some_iff valid.old).mp looked
      have inside : position < map.new.size := by
        rw [← valid.paired]
        exact (Array.getElem?_eq_some_iff.mp present).1
      have there := Array.getElem?_eq_getElem inside
      have low := valid.short position _ there
      refine ⟨position, present, ?_⟩
      rw [Array.getD_eq_getD_getElem?, there, Option.getD_some, UInt16.toNat_ofNat_of_lt' low]
    · cases found
  · intro stated
    rcases stated with ⟨position, present, there⟩
    rw [(Offsets.position?_eq_some_iff valid.old).mpr present]
    dsimp only
    rw [Array.getD_eq_getD_getElem?, there, Option.getD_some, UInt16.ofNat_toNat]

theorem Valid.range {map : OffsetMap} (valid : map.Valid) {start stop newStart newStop : UInt16}
    (first : Offsets.Moved map.old map.new start.toNat newStart.toNat)
    (second : Offsets.Moved map.old map.new stop.toNat newStop.toNat)
    (order : start.toNat ≤ stop.toNat) :
    newStart.toNat + (newStop - newStart).toNat = newStop.toNat := by
  have ordered := Offsets.Moved.mono valid.old valid.new first second order
  rw [UInt16.toNat_sub_of_le _ _ (UInt16.le_iff_toNat_le.mpr ordered)]
  omega

end OffsetMap
end ClassRename
