import ClassRename.Proofs.Body.Decoding

namespace ClassRename
open Effects

namespace Instruction

theorem targets_mapTargets (place : Nat → Nat) (instruction : Instruction) :
    (instruction.mapTargets place).targets = instruction.targets.map place := by
  cases instruction <;> simp [mapTargets, targets]

end Instruction

namespace Body

-- The bytes of one instruction that is acceptable alone, with the distances that they store: of a
-- switch the default before the cases.
inductive Piece (pool : Pool) (offset : Nat) : Bytes → List Int → Prop where
  | plain (assigned : Opcode.isReserved opcode = false) (shape : Opcode.layout opcode = .none) :
      Piece pool offset [opcode] []
  | fixed (shape : Opcode.layout opcode = .fixed operands.length) :
      Piece pool offset (opcode :: operands) []
  | narrowLoad (loaded : pool.loadable index.toUInt16 = .ok value) :
      Piece pool offset [Opcode.ldc, index] []
  | reference (shape : Opcode.layout opcode = .poolIndex extra.length)
      (resolves : ∀ error, symbolic? pool opcode index extra ≠ some (.error error)) :
      Piece pool offset (opcode :: (Bytes.u16 index ++ extra)) []
  | branch16 (shape : Opcode.layout opcode = .branch16) (near : fits16 stored = true) :
      Piece pool offset (opcode :: Bytes.i16 (Int16.ofInt stored)) [stored]
  | branch32 (shape : Opcode.layout opcode = .branch32) (near : Fits32 stored) :
      Piece pool offset (opcode :: word stored) [stored]
  | tableSwitch {default : Int} (skipped : padded.length = padding (offset + 1))
      (ordered : low ≤ high) (counted : (others.length : Int) = high.toInt - low.toInt + 1)
      (near : ∀ stored ∈ default :: others, Fits32 stored) :
      Piece pool offset
        (Opcode.tableSwitch :: (padded ++ (word default ++ (Bytes.i32 low ++
          (Bytes.i32 high ++ others.flatMap word)))))
        (default :: others)
  | lookupSwitch {default : Int} {pairs : List (Int32 × Int)}
      (skipped : padded.length = padding (offset + 1)) (counted : pairs.length < 2 ^ 31)
      (near : ∀ stored ∈ default :: pairs.map Prod.snd, Fits32 stored) :
      Piece pool offset
        (Opcode.lookupSwitch :: (padded ++ (word default ++ (word (pairs.length : Int) ++
          pairs.flatMap fun pair => Bytes.i32 pair.1 ++ word pair.2))))
        (default :: pairs.map Prod.snd)
  | wide (modifiable : Opcode.widened? modified = some operands.length) :
      Piece pool offset (Opcode.wide :: modified :: operands) []

theorem Spells.toPiece (spelled : Spells pool offset bytes instruction) :
    Piece pool offset bytes (instruction.targets.map (distance offset)) := by
  cases spelled with
  | plain assigned shape => exact .plain assigned shape
  | fixed shape => exact .fixed shape
  | narrowLoad loaded => exact .narrowLoad loaded
  | symbol shape read =>
    have still : instruction.targets = [] := by cases symbolic?_ok_iff.mp read <;> rfl
    rw [still]
    exact .reference shape (by simp [read])
  | reference shape unread => exact .reference shape (by simp [unread])
  | branch16 shape near => exact .branch16 shape near
  | branch32 shape near => exact .branch32 shape near
  | @tableSwitch low high targets padded default skipped ordered counted first others =>
    have listed : (targets.flatMap fun target => word (distance offset target)) =
        (targets.map (distance offset)).flatMap word := (List.flatMap_map ..).symm
    rw [listed]
    refine .tableSwitch skipped ordered (by simpa using counted) ?_
    exact List.forall_mem_cons.mpr ⟨first, by simpa using others⟩
  | @lookupSwitch pairs padded default skipped counted first others =>
    let stored := pairs.map fun pair => (pair.1, distance offset pair.2)
    have size : stored.length = pairs.length := List.length_map ..
    have listed : pairs.flatMap (pairBytes offset) =
        stored.flatMap fun pair => Bytes.i32 pair.1 ++ word pair.2 := by
      rw [List.flatMap_map]
      rfl
    have distances : (pairs.map Prod.snd).map (distance offset) = stored.map Prod.snd := by
      simp [stored]
    have near : ∀ found ∈ (pairs.map Prod.snd).map (distance offset), Fits32 found :=
      List.forall_mem_map.mpr (List.forall_mem_map.mpr others)
    rw [distances] at near
    rw [listed, ← size, Instruction.targets, List.map_cons, distances]
    exact .lookupSwitch skipped (size ▸ counted) (List.forall_mem_cons.mpr ⟨first, near⟩)
  | wide modifiable => exact .wide modifiable

def landing (offset : Nat) (distance : Int) : Nat := (offset + distance).toNat

theorem distance_landing {offset : Nat} {stored : Int} (inside : 0 ≤ offset + stored) :
    distance offset (landing offset stored) = stored := by
  unfold distance landing
  omega

theorem map_distance_landing {offset : Nat} {stored : List Int}
    (inside : ∀ distance ∈ stored, 0 ≤ offset + distance) :
    (stored.map (landing offset)).map (distance offset) = stored := by
  have back := List.map_congr_left fun distance member => distance_landing (inside distance member)
  simpa [Function.comp_def] using back

theorem Piece.spelled (piece : Piece pool offset bytes distances)
    (inside : ∀ distance ∈ distances, 0 ≤ offset + distance) :
    ∃ instruction, Spells pool offset bytes instruction ∧
      instruction.targets.map (distance offset) = distances := by
  cases piece with
  | plain assigned shape => exact ⟨_, .plain assigned shape, rfl⟩
  | fixed shape => exact ⟨_, .fixed shape, rfl⟩
  | narrowLoad loaded => exact ⟨_, .narrowLoad loaded, rfl⟩
  | @reference opcode index extra shape resolves =>
    cases read : symbolic? pool opcode index extra with
    | none => exact ⟨_, .reference shape read, rfl⟩
    | some result =>
      cases result with
      | error error => exact absurd read (resolves error)
      | ok instruction =>
        refine ⟨instruction, .symbol shape read, ?_⟩
        cases symbolic?_ok_iff.mp read <;> rfl
  | @branch16 opcode stored shape near =>
    have back := distance_landing (inside stored List.mem_cons_self)
    rw [← back] at near
    have spelled : Spells pool offset _ (.branch opcode (landing offset stored)) :=
      .branch16 shape near
    rw [back] at spelled
    exact ⟨_, spelled, congrArg (· :: []) back⟩
  | @branch32 opcode stored shape near =>
    have back := distance_landing (inside stored List.mem_cons_self)
    rw [← back] at near
    have spelled : Spells pool offset _ (.branch opcode (landing offset stored)) :=
      .branch32 shape near
    rw [back] at spelled
    exact ⟨_, spelled, congrArg (· :: []) back⟩
  | @tableSwitch low high others padded default skipped ordered counted near =>
    obtain ⟨first, behind⟩ := List.forall_mem_cons.mp inside
    obtain ⟨nearFirst, nearOthers⟩ := List.forall_mem_cons.mp near
    have back := distance_landing first
    have listed := map_distance_landing behind
    have bytes : (others.map (landing offset)).flatMap (fun target => word (distance offset target)) =
        others.flatMap word := by
      rw [← List.flatMap_map, listed]
    have near : ∀ target ∈ others.map (landing offset), Fits32 (distance offset target) := by
      intro target member
      refine nearOthers _ ?_
      rw [← listed]
      exact List.mem_map_of_mem member
    have spelled : Spells pool offset _ (.tableSwitch (landing offset default) low high
        (others.map (landing offset))) :=
      .tableSwitch skipped ordered (by simpa using counted) (by rwa [back]) near
    rw [back, bytes] at spelled
    exact ⟨_, spelled, by rw [Instruction.targets, List.map_cons, back, listed]⟩
  | @lookupSwitch padded default pairs skipped counted near =>
    obtain ⟨first, behind⟩ := List.forall_mem_cons.mp inside
    obtain ⟨nearFirst, nearOthers⟩ := List.forall_mem_cons.mp near
    have back := distance_landing first
    have each : ∀ pair ∈ pairs, distance offset (landing offset pair.2) = pair.2 :=
      fun pair member => distance_landing (behind pair.2 (List.mem_map_of_mem member))
    let aimed := pairs.map fun pair => (pair.1, landing offset pair.2)
    have size : aimed.length = pairs.length := List.length_map ..
    have bytes : aimed.flatMap (pairBytes offset) =
        pairs.flatMap fun pair => Bytes.i32 pair.1 ++ word pair.2 := by
      rw [List.flatMap_map]
      refine List.flatMap_congr fun pair member => ?_
      rw [pairBytes, each pair member]
    have listed : (aimed.map Prod.snd).map (distance offset) = pairs.map Prod.snd := by
      rw [List.map_map, List.map_map]
      exact List.map_congr_left each
    have near : ∀ pair ∈ aimed, Fits32 (distance offset pair.2) := by
      refine List.forall_mem_map.mpr fun pair member => ?_
      rw [each pair member]
      exact nearOthers pair.2 (List.mem_map_of_mem member)
    have spelled : Spells pool offset _ (.lookupSwitch (landing offset default) aimed) :=
      .lookupSwitch skipped (size ▸ counted) (by rwa [back]) near
    rw [back, bytes, size] at spelled
    exact ⟨_, spelled, by rw [Instruction.targets, List.map_cons, back, listed]⟩
  | wide modifiable => exact ⟨_, .wide modifiable, rfl⟩

theorem Piece.near (piece : Piece pool offset bytes distances) :
    ∀ stored ∈ distances, Fits32 stored := by
  cases piece with
  | branch16 shape near =>
    obtain ⟨low, high⟩ := (fits16_iff _).mp near
    refine List.forall_mem_singleton.mpr ⟨?_, ?_⟩ <;> omega
  | branch32 shape near => exact List.forall_mem_singleton.mpr near
  | tableSwitch skipped ordered counted near => exact near
  | lookupSwitch skipped counted near => exact near
  | _ => exact List.forall_mem_nil _

theorem Piece.nonempty (piece : Piece pool offset bytes distances) : 0 < bytes.length := by
  cases piece <;> exact Nat.succ_pos _

theorem Piece.shifted (piece : Piece pool offset bytes distances) (quads : Nat) :
    Piece pool (offset + 4 * quads) bytes distances := by
  have aligned : padding (offset + 4 * quads + 1) = padding (offset + 1) := by
    unfold padding
    omega
  cases piece with
  | plain assigned shape => exact .plain assigned shape
  | fixed shape => exact .fixed shape
  | narrowLoad loaded => exact .narrowLoad loaded
  | reference shape resolves => exact .reference shape resolves
  | branch16 shape near => exact .branch16 shape near
  | branch32 shape near => exact .branch32 shape near
  | tableSwitch skipped ordered counted near =>
    exact .tableSwitch (skipped.trans aligned.symm) ordered counted near
  | lookupSwitch skipped counted near => exact .lookupSwitch (skipped.trans aligned.symm) counted near
  | wide modifiable => exact .wide modifiable

-- Far enough behind the start of the code every piece is read, so bytes begin with at most one.
theorem Piece.unique (one : Piece pool offset left first) (other : Piece pool offset right second)
    (same : left ++ rest = right ++ ending) : left = right ∧ rest = ending ∧ first = second := by
  let far := offset + 4 * 2 ^ 29
  have reads : ∀ (bytes behind : Bytes) (distances : List Int), Piece pool offset bytes distances →
      ∃ instruction, instruction.targets.map (distance far) = distances ∧
        readInstruction pool ⟨[], far, bytes ++ behind⟩ =
          .ok instruction ⟨[], far + bytes.length, behind⟩ := by
    intro bytes behind distances piece
    have moved := piece.shifted (2 ^ 29)
    have inside : ∀ stored ∈ distances, 0 ≤ (far : Int) + stored := by
      intro stored member
      have low := (piece.near stored member).1
      omega
    obtain ⟨instruction, spelled, stored⟩ := moved.spelled inside
    exact ⟨instruction, stored, readInstruction_complete spelled ⟨rfl, rfl, rfl⟩⟩
  obtain ⟨_, stored, read⟩ := reads left rest first one
  obtain ⟨_, again, reread⟩ := reads right ending second other
  rw [same, reread] at read
  simp only [EStateM.Result.ok.injEq, Cursor.mk.injEq, true_and] at read
  obtain ⟨rfl, _, rfl⟩ := read
  exact ⟨List.append_cancel_right same, rfl, stored.symm.trans again⟩

abbrev Split (pool : Pool) : Nat → Bytes → List Nat → List (List Int) → Prop := Tiled (Piece pool)

theorem Split.unique (one : Split pool offset code starts stored)
    (other : Split pool offset code others found) : starts = others ∧ stored = found := by
  induction one generalizing others found with
  | done =>
    generalize whole : ([] : Bytes) = code at other
    cases other with
    | done => exact ⟨rfl, rfl⟩
    | step piece =>
      have some := piece.nonempty
      rw [(List.append_eq_nil_iff.mp whole.symm).1] at some
      cases some
  | @step offset bytes _ code _ _ piece _ ih =>
    generalize whole : bytes ++ code = given at other
    cases other with
    | done =>
      have some := piece.nonempty
      rw [(List.append_eq_nil_iff.mp whole).1] at some
      cases some
    | step again tail =>
      obtain ⟨rfl, rfl, rfl⟩ := piece.unique again whole
      obtain ⟨rfl, rfl⟩ := ih tail
      exact ⟨rfl, rfl⟩

def distances (starts : List Nat) (raws : List Instruction) : List (List Int) :=
  List.zipWith (fun start raw => raw.targets.map (distance start)) starts raws

theorem Walk.split (walk : Walk pool offset code starts raws) :
    Split pool offset code starts (distances starts raws) := by
  induction walk with
  | done => exact .done
  | step spelled _ ih => exact .step spelled.toPiece ih

theorem Split.walk (split : Split pool offset code starts stored)
    (inside : ∀ pair ∈ starts.zip stored, ∀ distance ∈ pair.2, 0 ≤ (pair.1 : Int) + distance) :
    ∃ raws, Walk pool offset code starts raws ∧ stored = distances starts raws := by
  induction split with
  | done => exact ⟨[], .done, rfl⟩
  | step piece _ ih =>
    obtain ⟨here, behind⟩ := List.forall_mem_cons.mp inside
    obtain ⟨raw, spelled, rfl⟩ := piece.spelled here
    obtain ⟨raws, walk, rfl⟩ := ih behind
    exact ⟨raw :: raws, .step spelled walk, rfl⟩

theorem place_push {starts : List Nat} {position : Nat} (inside : position < starts.length)
    (length : Nat) : place (starts.toArray.push length) position = starts[position] := by
  have present := getElem?_starts (List.getElem?_eq_getElem inside) length
  rw [place, Array.getD_eq_getD_getElem?, present, Option.getD_some]

def Aims (offsets : Offsets) (start target : Nat) (found : Int) : Prop :=
  target + 1 < offsets.size ∧ ∃ there, offsets[target]? = some there ∧ found = (there : Int) - start

def Stored (pool : Pool) (offsets : Offsets) (start : Nat) (bytes : Bytes)
    (instruction : Instruction) : Prop :=
  ∃ found, Piece pool start bytes found ∧ List.Forall₂ (Aims offsets start) instruction.targets found

theorem Decodes.cuts (decodes : Decodes pool code body starts) :
    Cuts (Stored pool body.offsets) body.offsets code body.instructions := by
  refine decodes.cut fun start bytes instruction member spelled => ⟨_, spelled.toPiece, ?_⟩
  rw [Instruction.targets_mapTargets, List.map_map, List.forall₂_map_right_iff, List.forall₂_same]
  intro target aimed
  have bound := decodes.inside instruction member target aimed
  have present := getElem?_starts (List.getElem?_eq_getElem bound) code.length
  rw [Function.comp_apply, decodes.offsets, place_push bound]
  exact ⟨by simpa using bound, _, present, rfl⟩

end Body
end ClassRename
