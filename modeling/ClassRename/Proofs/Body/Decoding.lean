import ClassRename.Proofs.Body.Spelling
import ClassRename.Proofs.Body.Tiling

namespace ClassRename
open Effects Cursor

namespace Body

inductive Walk (pool : Pool) : Nat → Bytes → List Nat → List Instruction → Prop where
  | done : Walk pool offset [] [] []
  | step (spelled : Spells pool offset piece instruction)
      (tail : Walk pool (offset + piece.length) code starts instructions) :
      Walk pool offset (piece ++ code) (offset :: starts) (instruction :: instructions)

theorem Spells.nonempty (spelled : Spells pool offset piece instruction) : 0 < piece.length := by
  cases spelled <;> exact Nat.succ_pos _

theorem Walk.extends (extended : Pool.Extends earlier later)
    (walk : Walk earlier offset code starts instructions) :
    Walk later offset code starts instructions := by
  induction walk with
  | done => exact .done
  | step spelled _ ih => exact .step (spelled.extends extended) ih

namespace Walk

theorem tiled (walk : Walk pool offset code starts instructions) :
    Tiled (Spells pool) offset code starts instructions := by
  induction walk with
  | done => exact .done
  | step spelled _ ih => exact .step spelled ih

theorem length (walk : Walk pool offset code starts instructions) :
    starts.length = instructions.length :=
  walk.tiled.length

theorem inside (walk : Walk pool offset code starts instructions) :
    ∀ start ∈ starts, offset ≤ start ∧ start < offset + code.length :=
  walk.tiled.inside Spells.nonempty

theorem ascending (walk : Walk pool 0 code starts instructions) :
    Offsets.Ascending (starts.toArray.push code.length) :=
  walk.tiled.ascending Spells.nonempty

theorem nil_iff (walk : Walk pool offset code starts instructions) :
    code = [] ↔ instructions = [] := by
  cases walk with
  | done => simp
  | @step _ piece =>
    rename_i spelled _
    have some := spelled.nonempty
    simp only [List.append_eq_nil_iff, reduceCtorEq, iff_false, not_and]
    intro same
    subst same
    cases some

end Walk

theorem readAll_complete (walk : Walk pool offset code starts instructions) (data : Bytes)
    (steps : Nat) (found : List (Nat × Instruction)) (enough : code.length ≤ steps) :
    readAll pool steps found ⟨data, offset, code⟩ =
      .ok (found.reverse ++ starts.zip instructions) ⟨data, offset + code.length, []⟩ := by
  induction walk generalizing steps found with
  | done => cases steps <;> simp [readAll, Cursor.hasMore]
  | @step offset piece instruction code starts instructions spelled tail ih =>
    have some := spelled.nonempty
    rw [List.length_append] at enough
    cases steps with
    | zero => omega
    | succ steps =>
      let before : Cursor := ⟨data, offset, piece ++ code⟩
      have taken : readInstruction pool before =
          .ok instruction ⟨data, offset + piece.length, code⟩ :=
        readInstruction_complete spelled ⟨rfl, rfl, rfl⟩
      have more : before.hasMore = true := by
        cases piece with
        | nil => cases some
        | cons => rfl
      have others := ih steps ((offset, instruction) :: found) (by omega)
      rw [readAll, bind_apply, Scan.get_apply]
      dsimp only
      rw [if_pos more, bind_apply, taken]
      dsimp only
      rw [others, List.zip_cons_cons, List.reverse_cons, List.append_assoc, List.singleton_append,
        List.length_append, Nat.add_assoc]

theorem readAll_sound (steps : Nat) (found : List (Nat × Instruction)) (before : Cursor)
    (enough : before.rest.length ≤ steps)
    (read : readAll pool steps found before = .ok result after) :
    ∃ starts instructions, Walk pool before.position before.rest starts instructions ∧
      result = found.reverse ++ starts.zip instructions := by
  induction steps generalizing found before with
  | zero =>
    obtain ⟨rfl, rfl⟩ := run_pure_iff.mp read
    have empty := List.eq_nil_of_length_eq_zero (Nat.le_zero.mp enough)
    exact ⟨[], [], empty ▸ .done, by simp⟩
  | succ steps ih =>
    rw [readAll, bind_apply, Scan.get_apply] at read
    dsimp only at read
    split at read
    · obtain ⟨instruction, middle, taken, others⟩ := run_bind_iff.mp read
      obtain ⟨piece, spelled, passed⟩ := readInstruction_sound taken
      have some := spelled.nonempty
      have shorter := passed.length
      obtain ⟨starts, instructions, walk, rfl⟩ := ih _ middle (by omega) others
      rw [passed.position] at walk
      refine ⟨before.position :: starts, instruction :: instructions, ?_, by simp⟩
      rw [passed.rest]
      exact .step spelled walk
    · rename_i stopped
      obtain ⟨rfl, rfl⟩ := run_pure_iff.mp read
      have empty : before.rest = [] := by simpa [Cursor.hasMore] using stopped
      exact ⟨[], [], empty ▸ .done, by simp⟩

theorem readAll_ok_iff : (readAll pool code.length []).run code = .ok found ↔
    ∃ starts instructions, Walk pool 0 code starts instructions ∧ found = starts.zip instructions := by
  rw [Scan.run_ok_iff]
  constructor
  · intro stated
    rcases stated with ⟨after, read⟩
    exact readAll_sound code.length [] (.start code) (Nat.le_refl _) read
  · intro stated
    rcases stated with ⟨starts, instructions, walk, rfl⟩
    exact ⟨_, readAll_complete walk code code.length [] (Nat.le_refl _)⟩

def place (offsets : Offsets) (position : Nat) : Nat := offsets.getD position 0

structure Decodes (pool : Pool) (code : Bytes) (body : DecodedBody) (starts : List Nat) : Prop where
  offsets : body.offsets = starts.toArray.push code.length
  walk : Walk pool 0 code starts (body.instructions.map (·.mapTargets (place body.offsets)))
  inside : ∀ instruction ∈ body.instructions, ∀ target ∈ instruction.targets, target < starts.length

-- The raw targets are offsets of pieces, and they are resolved to the positions of those pieces.
theorem retargeted_iff (walk : Walk pool 0 code starts raws) (finals : List Instruction) :
    List.Forall₂ (fun found final =>
        found.2.retarget (resolveTarget (starts.toArray.push code.length)) = .ok final)
      (starts.zip raws) finals ↔
      raws = finals.map (·.mapTargets (place (starts.toArray.push code.length))) ∧
        ∀ final ∈ finals, ∀ target ∈ final.targets, target < starts.length := by
  rw [← forall₂_image_iff, ← forall₂_zip_iff walk.length]
  have one : ∀ raw final : Instruction,
      raw.retarget (resolveTarget (starts.toArray.push code.length)) = .ok final ↔
        raw = final.mapTargets (place (starts.toArray.push code.length)) ∧
          ∀ target ∈ final.targets, target < starts.length := by
    intro raw final
    rw [Instruction.retarget_ok_iff (resolveTarget_ok_iff walk.ascending)]
    simp only [Array.size_push, List.size_toArray, Nat.add_lt_add_iff_right]
    rfl
  simp only [one]

theorem decode_ok_iff : decode pool code = .ok body ↔ ∃ starts, Decodes pool code body starts := by
  simp only [decode, bind_ok_iff, readAll_ok_iff, pure_ok_iff, mapM_ok_iff]
  constructor
  · intro stated
    rcases stated with ⟨_, ⟨starts, raws, walk, rfl⟩, finals, related, rfl⟩
    have unzipped : (starts.zip raws).map Prod.fst = starts :=
      List.map_fst_zip (Nat.le_of_eq walk.length)
    rw [unzipped, retargeted_iff walk] at related
    obtain ⟨rfl, inside⟩ := related
    rw [unzipped]
    exact ⟨starts, rfl, walk, inside⟩
  · intro stated
    rcases stated with ⟨starts, offsets, walk, inside⟩
    obtain ⟨finals, given⟩ := body
    obtain rfl := offsets
    have unzipped := List.map_fst_zip (Nat.le_of_eq walk.length)
    refine ⟨_, ⟨starts, _, walk, rfl⟩, finals, ?_, by rw [unzipped]⟩
    rw [unzipped, retargeted_iff walk]
    exact ⟨rfl, inside⟩

theorem Decodes.cut {Piece : Nat → Bytes → Instruction → Prop}
    (decodes : Decodes pool code body starts)
    (each : ∀ start bytes, ∀ instruction ∈ body.instructions,
      Spells pool start bytes (instruction.mapTargets (place body.offsets)) →
        Piece start bytes instruction) :
    Cuts Piece body.offsets code body.instructions := by
  have cuts := decodes.walk.tiled.cuts Spells.nonempty
  rw [← decodes.offsets] at cuts
  have related : List.Forall₂ (fun instruction raw : Instruction =>
      raw = instruction.mapTargets (place body.offsets) ∧ instruction ∈ body.instructions)
      body.instructions (body.instructions.map (·.mapTargets (place body.offsets))) :=
    List.forall₂_map_right_iff.mpr (List.forall₂_same.mpr fun _ member => ⟨rfl, member⟩)
  refine cuts.related related ?_
  intro start bytes raw instruction known spelled
  obtain ⟨rfl, member⟩ := known
  exact each start bytes instruction member spelled

theorem decode_offsets (decoded : decode pool code = .ok body) : body.offsets.Ascending ∧
    ∀ (position offset : Nat), body.offsets[position]? = some offset → offset ≤ code.length := by
  obtain ⟨starts, offsets, walk, _⟩ := decode_ok_iff.mp decoded
  rw [offsets]
  refine ⟨walk.ascending, fun position offset present => ?_⟩
  rw [← Array.getElem?_toList, Array.toList_push] at present
  rcases List.mem_append.mp (List.mem_of_getElem? present) with start | last
  · have bounds := walk.inside offset start
    omega
  · exact Nat.le_of_eq (List.mem_singleton.mp last)

theorem decode_nil_iff (decoded : decode pool code = .ok body) : code = [] ↔ body.instructions = [] := by
  obtain ⟨starts, _, walk, _⟩ := decode_ok_iff.mp decoded
  rw [walk.nil_iff, List.map_eq_nil_iff]

end Body
end ClassRename
