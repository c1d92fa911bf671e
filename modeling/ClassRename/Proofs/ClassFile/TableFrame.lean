import ClassRename.Proofs.ClassFile.Relocation

namespace ClassRename
open Effects Cursor

namespace DebugTable

-- Behind a count of two bytes a table has entries of `stride` bytes, which begin with `width` bytes
-- of offsets.
structure Grid where
  stride : Nat
  width : Nat

def grid? : String → Option Grid
  | "LineNumberTable" => some ⟨4, 2⟩
  | "LocalVariableTable" | "LocalVariableTypeTable" => some ⟨10, 4⟩
  | _ => none

namespace Grid

def declared (grid : Grid) (table : Bytes) : Nat :=
  2 + Bytes.toNat (table.take 2) * grid.stride

theorem declared_take (grid : Grid) (table : Bytes) :
    grid.declared (table.take (grid.declared table)) = grid.declared table := by
  have front : min 2 (grid.declared table) = 2 := Nat.min_eq_left (Nat.le_add_right 2 _)
  rw [declared, List.take_take, front, ← declared]

structure IsOffset (grid : Grid) (table : Bytes) (position : Nat) : Prop where
  counted : 2 ≤ position
  inside : position < grid.declared table
  first : (position - 2) % grid.stride < grid.width

structure Copied (grid : Grid) (before after : Bytes) : Prop where
  length : after.length = before.length
  kept : ∀ position : Nat, ¬ grid.IsOffset before position → after[position]? = before[position]?

structure Carried (grid : Grid) (raw piece : Bytes) : Prop where
  before : raw.length = grid.stride
  after : piece.length = grid.stride
  kept : piece.drop grid.width = raw.drop grid.width

theorem Carried.entries {grid : Grid} (carried : List.Forall₂ grid.Carried raws pieces) :
    raws.flatten.length = raws.length * grid.stride ∧
      pieces.flatten.length = raws.length * grid.stride ∧
      ∀ position : Nat, grid.width ≤ position % grid.stride →
        pieces.flatten[position]? = raws.flatten[position]? := by
  induction carried with
  | nil => simp
  | @cons raw piece raws pieces first _ ih =>
    obtain ⟨before, after, kept⟩ := first
    obtain ⟨old, new, same⟩ := ih
    rw [List.flatten_cons, List.flatten_cons, List.length_append, List.length_append,
      List.length_cons, Nat.succ_mul, before, after, old, new, Nat.add_comm grid.stride]
    refine ⟨rfl, rfl, fun position behind => ?_⟩
    rcases Nat.lt_or_ge position grid.stride with inside | beyond
    · rw [List.getElem?_append_left (after ▸ inside), List.getElem?_append_left (before ▸ inside)]
      rw [Nat.mod_eq_of_lt inside] at behind
      have here := congrArg (fun rest => rest[position - grid.width]?) kept
      simpa only [List.getElem?_drop, Nat.add_sub_cancel' behind] using here
    · rw [List.getElem?_append_right (after ▸ beyond), List.getElem?_append_right (before ▸ beyond),
        before, after]
      rw [Nat.mod_eq_sub_mod beyond] at behind
      exact same _ behind

end Grid

theorem lineNumber_carried {map : OffsetMap} (ran : lineNumber map before = .ok piece after) :
    ∃ raw, Scan.bytes 4 before = .ok raw after ∧ Grid.Carried ⟨4, 2⟩ raw piece := by
  simp only [lineNumber, run_bind_iff, run_pure_iff, Scan.lift_ok_iff] at ran
  obtain ⟨start, _, first, line, _, second, moved, _, ⟨_, rfl⟩, rfl, rfl⟩ := ran
  have passed := (Scan.u16_codec.sound _ _ _ first).2.trans (Scan.u16_codec.sound _ _ _ second).2
  have length : (Bytes.u16 start ++ Bytes.u16 line).length = 4 := by simp
  refine ⟨_, (Scan.bytes_codec 4).read length passed, length, by simp, ?_⟩
  rw [List.drop_left' (Bytes.length_u16 moved), List.drop_left' (Bytes.length_u16 start)]

theorem localVariable_carried {map : OffsetMap} (ran : localVariable map before = .ok piece after) :
    ∃ raw, Scan.bytes 10 before = .ok raw after ∧ Grid.Carried ⟨10, 4⟩ raw piece := by
  simp only [localVariable, run_bind_iff, run_pure_iff, Scan.guard_ok_iff, Scan.lift_ok_iff] at ran
  obtain ⟨start, _, first, length, _, second, _, newStart, _, ⟨_, rfl⟩, newStop, _, ⟨_, rfl⟩, others,
    _, taken, rfl, rfl⟩ := ran
  obtain ⟨size, third⟩ := (Scan.bytes_codec 6).sound _ _ _ taken
  have range := (Scan.u16_codec.sound _ _ _ first).2.trans (Scan.u16_codec.sound _ _ _ second).2
  have width : (Bytes.u16 start ++ Bytes.u16 length ++ others).length = 10 := by simp [size]
  refine ⟨_, (Scan.bytes_codec 10).read width (range.trans third), width, by simp [size], ?_⟩
  rw [List.drop_left' (by simp), List.drop_left' (by simp)]

theorem remap_copied {data : Bytes} {grid : Grid} {entry : OffsetMap → Scan Bytes}
    (one : ∀ before piece after, entry map before = .ok piece after →
      ∃ raw, Scan.bytes grid.stride before = .ok raw after ∧ grid.Carried raw piece)
    (ran : (remap entry map).run data = .ok written) :
    grid.declared data ≤ data.length ∧
      grid.Copied (data.take (grid.declared data)) written := by
  obtain ⟨_, ran⟩ := Scan.run_ok_iff.mp ran
  simp only [remap, run_bind_iff, run_pure_iff] at ran
  obtain ⟨count, middle, first, pieces, last, taken, rfl, _⟩ := ran
  obtain ⟨raws, read, carried⟩ := Scan.times_sound one taken
  obtain ⟨⟨counted, _⟩, passed⟩ := (Scan.times_codec (Scan.bytes_codec _) _).sound _ _ _ read
  obtain ⟨old, new, kept⟩ := Grid.Carried.entries carried
  have stored : data = Bytes.u16 count ++ raws.flatten ++ last.rest := by
    have rest := ((Scan.u16_codec.sound _ _ _ first).2.trans passed).rest
    simpa [Cursor.start] using rest
  have size : grid.declared data = 2 + raws.length * grid.stride := by
    have front : data.take 2 = Bytes.u16 count := by
      rw [stored, List.append_assoc, List.take_left' (Bytes.length_u16 count)]
    rw [Grid.declared, front, Bytes.u16, Bytes.toNat_ofNat_of_lt count.toNat_lt, counted]
  have declared : grid.declared data = (Bytes.u16 count ++ raws.flatten).length := by
    rw [size, List.length_append, Bytes.length_u16, old]
  have whole : data.take (grid.declared data) = Bytes.u16 count ++ raws.flatten := by
    rw [declared, stored, List.take_left]
  refine ⟨?_, ?_, fun position still => ?_⟩
  · rw [declared]
    conv_rhs => rw [stored, List.length_append]
    exact Nat.le_add_right _ _
  · rw [whole, List.length_append, List.length_append, old, new]
  · rw [whole]
    rcases Nat.lt_or_ge position 2 with counting | behind
    · rw [List.getElem?_append_left (by simpa using counting),
        List.getElem?_append_left (by simpa using counting)]
    · rw [List.getElem?_append_right (by simpa using behind),
        List.getElem?_append_right (by simpa using behind), Bytes.length_u16]
      rcases Nat.lt_or_ge (position - 2) (raws.length * grid.stride) with inside | beyond
      · refine kept _ (Nat.le_of_not_lt fun offset => still ⟨behind, ?_, offset⟩)
        rw [Grid.declared_take, size]
        omega
      · rw [List.getElem?_eq_none (new ▸ beyond), List.getElem?_eq_none (old ▸ beyond)]

end DebugTable

namespace Attribute
open DebugTable

theorem remap_table {map : OffsetMap} {entry found : Attribute} {before after : Log} {name : String}
    {grid : Grid} (known : grid? name = some grid)
    (ran : entry.remap map name before = .ok found after) :
    after = before ∧ grid.declared entry.data ≤ entry.data.length ∧
      grid.Copied (entry.data.take (grid.declared entry.data)) found.data := by
  unfold grid? at known
  split at known
  case h_1 =>
    cases known
    simp only [remap, run_bind_iff, run_pure_iff, Logging.lift_ok_iff] at ran
    obtain ⟨_, _, ⟨written, rfl⟩, rfl, rfl⟩ := ran
    exact ⟨rfl, remap_copied (fun _ _ _ => lineNumber_carried) written⟩
  case h_2 | h_3 =>
    cases known
    simp only [remap, run_bind_iff, run_pure_iff, Logging.lift_ok_iff] at ran
    obtain ⟨_, _, ⟨written, rfl⟩, rfl, rfl⟩ := ran
    exact ⟨rfl, remap_copied (fun _ _ _ => localVariable_carried) written⟩
  case h_4 => cases known

-- A table that is remapped has all the entries it declares, and they are copied but for their
-- offsets. The copy is complete exactly if nothing stands behind them.
theorem remap_copied_iff {map : OffsetMap} {entry found : Attribute} {before after : Log}
    {name : String} {grid : Grid} (known : grid? name = some grid)
    (ran : entry.remap map name before = .ok found after) :
    after = before ∧ found.name = entry.name ∧ grid.declared entry.data ≤ entry.data.length ∧
      grid.Copied (entry.data.take (grid.declared entry.data)) found.data ∧
      (grid.Copied entry.data found.data ↔ entry.data.length = grid.declared entry.data) := by
  obtain ⟨silent, enough, copied⟩ := remap_table known ran
  refine ⟨silent, remap_name ran, enough, copied, ?_⟩
  constructor
  · intro complete
    rw [← complete.length, copied.length, List.length_take, Nat.min_eq_left enough]
  · intro exact
    rwa [← exact, List.take_length] at copied

def widening : OffsetMap := ⟨#[0, 2, 3], #[0, 3, 4]⟩

theorem widening_valid : widening.Valid := by
  refine ⟨Offsets.ascending_of_pairwise (by decide), Offsets.ascending_of_pairwise (by decide), rfl,
    ?_⟩
  intro position offset present
  have listed := List.mem_of_getElem? (Array.getElem?_toList.trans present)
  have small : ∀ entry ∈ widening.new.toList, entry < 65536 := by decide
  exact small offset listed

theorem remap_drops_rest : widening.Valid ∧
    Attribute.remap widening "LineNumberTable" ⟨5, [0, 1, 0, 2, 0, 7, 0xFF]⟩ #[] =
      .ok ⟨5, [0, 1, 0, 3, 0, 7]⟩ #[] ∧
    ¬ Grid.Copied ⟨4, 2⟩ [0, 1, 0, 2, 0, 7, 0xFF] [0, 1, 0, 3, 0, 7] := by
  have read : (DebugTable.remap lineNumber widening).run [0, 1, 0, 2, 0, 7, 0xFF] =
      .ok [0, 1, 0, 3, 0, 7] := by
    decide +kernel
  refine ⟨widening_valid, ?_, fun copied => absurd copied.length (by decide)⟩
  exact run_bind_iff.mpr ⟨_, _, Logging.lift_ok_iff.mpr ⟨read, rfl⟩, rfl⟩

theorem remap_copies_variable :
    Attribute.remap widening "LocalVariableTable" ⟨5, [0, 1, 0, 2, 0, 1, 0, 8, 0, 9, 0, 3]⟩ #[] =
      .ok ⟨5, [0, 1, 0, 3, 0, 1, 0, 8, 0, 9, 0, 3]⟩ #[] ∧
    Grid.Copied ⟨10, 4⟩ [0, 1, 0, 2, 0, 1, 0, 8, 0, 9, 0, 3] [0, 1, 0, 3, 0, 1, 0, 8, 0, 9, 0, 3] := by
  have read : (DebugTable.remap localVariable widening).run
      [0, 1, 0, 2, 0, 1, 0, 8, 0, 9, 0, 3] = .ok [0, 1, 0, 3, 0, 1, 0, 8, 0, 9, 0, 3] := by
    decide +kernel
  have ran : Attribute.remap widening "LocalVariableTable"
      ⟨5, [0, 1, 0, 2, 0, 1, 0, 8, 0, 9, 0, 3]⟩ #[] =
        .ok ⟨5, [0, 1, 0, 3, 0, 1, 0, 8, 0, 9, 0, 3]⟩ #[] :=
    run_bind_iff.mpr ⟨_, _, Logging.lift_ok_iff.mpr ⟨read, rfl⟩, rfl⟩
  have known : grid? "LocalVariableTable" = some ⟨10, 4⟩ := rfl
  obtain ⟨_, _, _, _, complete⟩ := remap_copied_iff known ran
  exact ⟨ran, complete.mpr (by decide)⟩

end Attribute
end ClassRename
