import ClassRename.Proofs.Body.Targets

namespace ClassRename
namespace Body

inductive Tiled (Piece : Nat → Bytes → α → Prop) : Nat → Bytes → List Nat → List α → Prop where
  | done : Tiled Piece offset [] [] []
  | step (piece : Piece offset bytes item)
      (tail : Tiled Piece (offset + bytes.length) code starts items) :
      Tiled Piece offset (bytes ++ code) (offset :: starts) (item :: items)

-- Offsets between which the pieces of code stand, the end of the code behind the last.
structure Cuts (Piece : Nat → Bytes → α → Prop) (offsets : Offsets) (code : Bytes) (items : List α) :
    Prop where
  counted : offsets.size = items.length + 1
  first : offsets[0]? = some 0
  rising : offsets.Ascending
  last : offsets[items.length]? = some code.length
  pieces : ∀ (position start stop : Nat) (item : α), items[position]? = some item →
    offsets[position]? = some start → offsets[position + 1]? = some stop →
      Piece start ((code.drop start).take (stop - start)) item

theorem Cuts.bounds {Piece : Nat → Bytes → α → Prop} {position start stop : Nat}
    (cuts : Cuts Piece offsets code items)
    (begins : offsets[position]? = some start) (ends : offsets[position + 1]? = some stop) :
    start < stop ∧ stop ≤ code.length := by
  refine ⟨cuts.rising _ _ _ _ (Nat.lt_succ_self _) begins ends, ?_⟩
  have bound : position + 1 < offsets.size := (Array.getElem?_eq_some_iff.mp ends).1
  rw [cuts.counted, Nat.succ_lt_succ_iff] at bound
  rcases Nat.eq_or_lt_of_le (Nat.succ_le_of_lt bound) with same | before
  · have last := cuts.last
    rw [← same, ends] at last
    exact Nat.le_of_eq (Option.some.inj last)
  · exact Nat.le_of_lt (cuts.rising _ _ _ _ before ends cuts.last)

theorem Cuts.imp {Piece Other : Nat → Bytes → α → Prop} (cuts : Cuts Piece offsets code items)
    (each : ∀ start bytes item, Piece start bytes item → Other start bytes item) :
    Cuts Other offsets code items := by
  refine ⟨cuts.counted, cuts.first, cuts.rising, cuts.last, ?_⟩
  intro position start stop item present begins ends
  exact each _ _ _ (cuts.pieces position start stop item present begins ends)

theorem Cuts.related {Piece : Nat → Bytes → α → Prop} {Other : Nat → Bytes → β → Prop}
    {Related : β → α → Prop} (cuts : Cuts Piece offsets code items)
    (related : List.Forall₂ Related others items)
    (each : ∀ start bytes item other, Related other item → Piece start bytes item →
      Other start bytes other) : Cuts Other offsets code others := by
  have same := related.length_eq
  refine ⟨by rw [cuts.counted, same], cuts.first, cuts.rising, by rw [same, cuts.last], ?_⟩
  intro position start stop other present begins ends
  obtain ⟨bound, rfl⟩ := List.getElem?_eq_some_iff.mp present
  have one := related.get bound (same ▸ bound)
  exact each _ _ _ _ one (cuts.pieces position start stop _ (List.getElem?_eq_getElem _) begins ends)

theorem getElem?_starts {starts : List Nat} {position start : Nat}
    (present : starts[position]? = some start) (length : Nat) :
    (starts.toArray.push length)[position]? = some start := by
  have inside : position < starts.length := (List.getElem?_eq_some_iff.mp present).1
  rw [Array.getElem?_push, if_neg (by simpa using Nat.ne_of_lt inside)]
  simpa using present

namespace Tiled
variable {Piece : Nat → Bytes → α → Prop}

theorem length (tiled : Tiled Piece offset code starts items) : starts.length = items.length := by
  induction tiled with
  | done => rfl
  | step _ _ ih => rw [List.length_cons, List.length_cons, ih]

theorem head (tiled : Tiled Piece offset code starts items) :
    (starts ++ [offset + code.length])[0]? = some offset := by
  cases tiled <;> rfl

theorem slice (tiled : Tiled Piece offset code starts items) (present : items[position]? = some item)
    (begins : starts[position]? = some start)
    (ends : (starts ++ [offset + code.length])[position + 1]? = some stop) :
    offset ≤ start ∧ Piece start ((code.drop (start - offset)).take (stop - start)) item := by
  induction tiled generalizing position with
  | done => cases present
  | @step offset bytes _ code starts items piece tail ih =>
    rw [List.length_append, ← Nat.add_assoc, List.cons_append, List.getElem?_cons_succ] at ends
    cases position with
    | zero =>
      rw [tail.head] at ends
      cases present
      cases begins
      cases ends
      refine ⟨Nat.le_refl _, ?_⟩
      rwa [Nat.sub_self, List.drop_zero, Nat.add_sub_cancel_left, List.take_left]
    | succ position =>
      obtain ⟨behind, slice⟩ := ih present begins ends
      refine ⟨by omega, ?_⟩
      rwa [List.drop_append, List.drop_eq_nil_of_le (by omega), List.nil_append, Nat.sub_sub]

section Nonempty
variable (some : ∀ {offset bytes item}, Piece offset bytes item → 0 < bytes.length)
include some

theorem inside (tiled : Tiled Piece offset code starts items) :
    ∀ start ∈ starts, offset ≤ start ∧ start < offset + code.length := by
  induction tiled with
  | done => simp
  | step piece _ ih =>
    have nonempty := some piece
    intro start member
    rw [List.length_append]
    rcases List.mem_cons.mp member with rfl | later
    · omega
    · have bounds := ih start later
      omega

theorem pairwise (tiled : Tiled Piece offset code starts items) :
    (starts ++ [offset + code.length]).Pairwise (· < ·) := by
  induction tiled with
  | done => simp
  | @step offset bytes _ code starts items piece tail ih =>
    have nonempty := some piece
    rw [List.length_append, ← Nat.add_assoc, List.cons_append, List.pairwise_cons]
    refine ⟨?_, ih⟩
    intro start member
    rcases List.mem_append.mp member with later | last
    · have bounds := tail.inside some start later
      omega
    · rw [List.mem_singleton.mp last]
      omega

theorem ascending (tiled : Tiled Piece 0 code starts items) :
    Offsets.Ascending (starts.toArray.push code.length) := by
  refine Offsets.ascending_of_pairwise ?_
  rw [Array.toList_push, ← Nat.zero_add code.length]
  exact tiled.pairwise some

theorem cuts (tiled : Tiled Piece 0 code starts items) :
    Cuts Piece (starts.toArray.push code.length) code items := by
  refine ⟨by simp [tiled.length], ?_, tiled.ascending some, by simp [← tiled.length], ?_⟩
  · have head := tiled.head
    rwa [Nat.zero_add, ← Array.toList_push, Array.getElem?_toList] at head
  · intro position start stop item present begins ends
    have bound : position < starts.length := tiled.length ▸ (List.getElem?_eq_some_iff.mp present).1
    have listed := List.getElem?_eq_getElem bound
    obtain rfl := Option.some.inj ((getElem?_starts listed code.length).symm.trans begins)
    rw [← Array.getElem?_toList, Array.toList_push, ← Nat.zero_add code.length] at ends
    exact (tiled.slice present listed ends).2

end Nonempty
end Tiled
end Body
end ClassRename
