import ClassRename.Proofs.ClassFile.DebugTable
import ClassRename.Proofs.Rename.Renaming

namespace ClassRename
open Effects

structure Handler.Moved (old new : Offsets) (before after : Handler) : Prop where
  start : Offsets.Moved old new before.start.toNat after.start.toNat
  stop : Offsets.Moved old new before.stop.toNat after.stop.toNat
  entry : Offsets.Moved old new before.entry.toNat after.entry.toNat
  catchType : after.catchType = before.catchType

theorem Handler.remap_ok_iff {map : OffsetMap} (valid : map.Valid) {before after : Handler} :
    before.remap map = .ok after ↔ before.Moved map.old map.new after := by
  simp only [remap, bind_ok_iff, pure_ok_iff, valid.translate_ok_iff]
  constructor
  · intro stated
    rcases stated with ⟨_, start, _, stop, _, entry, rfl⟩
    exact ⟨start, stop, entry, rfl⟩
  · intro stated
    obtain ⟨start, stop, entry, catchType⟩ := stated
    exact ⟨_, start, _, stop, _, entry, by rw [← catchType]⟩

namespace Attribute
open DebugTable

structure Moved (pool : Pool) (old new : Offsets) (before after : Attribute) : Prop where
  name : after.name = before.name
  lines : pool.text before.name = .ok "LineNumberTable" →
    Related LineNumber.read (LineNumber.Moved old new) before.data after.data
  ranges : pool.text before.name = .ok "LocalVariableTable" ∨
      pool.text before.name = .ok "LocalVariableTypeTable" →
    Related LocalVariable.read (LocalVariable.Moved old new) before.data after.data

section Remapping
variable {map : OffsetMap} {before after : Log} {entry found : Attribute}

theorem remap_name {name : String} (ran : entry.remap map name before = .ok found after) :
    found.name = entry.name := by
  unfold remap at ran
  dsimp only at ran
  split at ran
  case h_5 | h_6 => cases ran
  all_goals
    obtain ⟨_, _, _, ran⟩ := run_bind_iff.mp ran
    obtain ⟨rfl, _⟩ := run_pure_iff.mp ran
    rfl

theorem remap_lines (valid : map.Valid)
    (ran : entry.remap map "LineNumberTable" before = .ok found after) :
    Related LineNumber.read (LineNumber.Moved map.old map.new) entry.data found.data := by
  simp only [remap, run_bind_iff, run_pure_iff, Logging.lift_ok_iff] at ran
  obtain ⟨_, _, ⟨written, _⟩, rfl, _⟩ := ran
  exact remap_sound LineNumber.codec (fun _ _ _ => lineNumber_sound valid) written

theorem remap_variables {name : String} (valid : map.Valid)
    (known : name = "LocalVariableTable" ∨ name = "LocalVariableTypeTable")
    (ran : entry.remap map name before = .ok found after) :
    Related LocalVariable.read (LocalVariable.Moved map.old map.new) entry.data found.data := by
  rcases known with rfl | rfl
  all_goals
    simp only [remap, run_bind_iff, run_pure_iff, Logging.lift_ok_iff] at ran
    obtain ⟨_, _, ⟨written, _⟩, rfl, _⟩ := ran
    exact remap_sound LocalVariable.codec (fun _ _ _ => localVariable_sound valid) written

theorem remap_sound {text : EncodedText} (valid : map.Valid)
    (named : pool.encodedText entry.name = .ok text)
    (ran : entry.remap map (text.text?.getD "") before = .ok found after) :
    Moved pool map.old map.new entry found := by
  have given : ∀ name, pool.text entry.name = .ok name → text.text?.getD "" = name := by
    intro name known
    obtain ⟨stored, looked, shown⟩ := Pool.text_ok_iff.mp known
    rw [named] at looked
    cases looked
    rw [shown, Option.getD_some]
  refine ⟨remap_name ran, fun known => ?_, fun known => ?_⟩
  · rw [given _ known] at ran
    exact remap_lines valid ran
  · exact remap_variables valid (known.imp (given _) (given _)) ran

end Remapping
end Attribute

namespace Code

theorem relocate_sound {code : Code} {before after : Log} {table : List Handler}
    {nested : List Attribute} (left : old.Ascending) (right : body.offsets.Ascending)
    (short : ∀ (position offset : Nat), body.offsets[position]? = some offset → offset < 65536)
    (ran : code.relocate pool old body before = .ok (table, nested) after) :
    List.Forall₂ (Handler.Moved old body.offsets) code.handlers table ∧
      List.Forall₂ (Attribute.Moved pool old body.offsets) code.attributes nested := by
  simp only [relocate, run_bind_iff, run_pure_iff, Logging.lift_ok_iff, mapM_ok_iff] at ran
  obtain ⟨map, _, ⟨paired, rfl⟩, _, _, _, handlers, _, ⟨remapped, rfl⟩, attributes, _, carried, same,
    _⟩ := ran
  cases same
  obtain ⟨size, rfl⟩ := OffsetMap.pair_ok_iff.mp paired
  have valid : OffsetMap.Valid ⟨old, body.offsets⟩ := ⟨left, right, size, short⟩
  refine ⟨remapped.imp fun _ _ one => (Handler.remap_ok_iff valid).mp one, ?_⟩
  refine mapM_each (fun entry _ _ _ ran => ?_) carried
  simp only [run_bind_iff, Logging.lift_ok_iff] at ran
  obtain ⟨text, _, ⟨named, rfl⟩, ran⟩ := ran
  exact Attribute.remap_sound valid named ran

-- What stands behind the code of a body that was read again: the same as before where the code
-- stands as before, and otherwise what moved along.
inductive Relocated (pool : Pool) (before after : Code) : Prop where
  | stays (offsets : after.offsets = before.offsets) (handlers : after.handlers = before.handlers)
      (attributes : after.attributes = before.attributes)
  | moves (left : before.offsets = some old) (right : after.offsets = some new) (moved : old ≠ new)
      (handlers : List.Forall₂ (Handler.Moved old new) before.handlers after.handlers)
      (attributes : List.Forall₂ (Attribute.Moved pool old new) before.attributes after.attributes)

theorem Relocated.catchTypes {before after : Code} (relocated : Relocated pool before after) :
    after.handlers.map Handler.catchType = before.handlers.map Handler.catchType := by
  cases relocated with
  | stays _ handlers => rw [handlers]
  | moves _ _ _ handlers =>
    have same := List.forall₂_map_left_iff.mpr (List.forall₂_map_right_iff.mpr
      (handlers.imp fun _ _ one => one.catchType.symm))
    rw [List.forall₂_eq_eq_eq] at same
    exact same.symm

theorem Carried.relocated {before after : Code}
    (carried : Carried pool before body after.handlers after.attributes)
    (read : before.offsets = some old) (placed : after.offsets = some body.offsets)
    (left : old.Ascending) (right : body.offsets.Ascending)
    (short : ∀ (position offset : Nat), body.offsets[position]? = some offset → offset < 65536) :
    Relocated pool before after := by
  generalize attributes : after.attributes = nested at carried
  generalize handlers : after.handlers = table at carried
  cases carried with
  | stays same =>
    rw [← same old read, ← read] at placed
    exact .stays placed handlers attributes
  | moves given moved relocated =>
    rw [read] at given
    cases given
    obtain ⟨first, second⟩ := relocate_sound left right short relocated
    exact .moves read placed moved (handlers ▸ first) (attributes ▸ second)

theorem Carried.of_rename {code : Code} {renames : RenameTable}
    (carried : Carried pool (code.rename renames) body table nested) :
    Carried pool code body table nested := by
  cases carried with
  | stays same => exact .stays same
  | moves read moved relocated => exact .moves read moved relocated

theorem toBytes_relocates {code : Code} {before after : Workspace}
    (accepted : (Code.read index pool).run data = .ok code)
    (extended : pool.Extends before.pool) (reachable : before.pool.Reachable) (table : RenameTable)
    (ran : (code.rename table).toBytes before = .ok written after)
    (read : Attribute.read (.start written) = .ok entry rest) (whole : rest.rest = []) :
    ∃ again, (Code.read entry.name after.pool).run entry.data = .ok again ∧
      again.handlers.map Handler.catchType = code.handlers.map Handler.catchType ∧
      Relocated after.pool code again := by
  obtain ⟨stored, body, parsed, decoded, rfl⟩ := Code.read_ok_iff.mp accepted
  obtain ⟨_, fits⟩ := StoredCode.parse_ok_iff.mp parsed
  obtain ⟨place, middle, encoded, handlers, attributes, named, wrote, carried, rfl⟩ := toBytes_runs ran
  obtain ⟨grown, _⟩ := nameIndex_sound reachable.sound named
  have wellFormed : ∀ instruction ∈ Body.rename table body.instructions,
      instruction.WellFormed middle := by
    obtain ⟨starts, decodes⟩ := Body.decode_ok_iff.mp decoded
    intro instruction member
    obtain ⟨old, present, rfl⟩ := List.mem_map.mp member
    exact ((decodes.wellFormed old present).extends (extended.trans grown.extends)).rename table
  obtain ⟨_, finals, rewritten⟩ := Body.encode_sound (grown.sound reachable.sound) wellFormed wrote
  have listed : Body.rename table body.instructions ≠ [] := by
    intro none
    have empty := (Body.decode_nil_iff decoded).mpr (List.map_eq_nil_iff.mp none)
    exact fits.nonempty (List.length_eq_zero_iff.mpr empty)
  have nonempty := rewritten.nonempty listed
  obtain ⟨redecoded, _, _, short⟩ := rewritten
  obtain ⟨small, passed⟩ := Attribute.codec.sound _ _ _ read
  obtain rfl := Attribute.toBytes_inj (passed.whole whole)
  dsimp only at small short
  rw [payload_eq _ _ _ _ (Nat.lt_of_le_of_lt short (by decide))] at small ⊢
  let moved : StoredCode := ⟨stored.maxStack, stored.maxLocals, encoded.code, handlers, attributes⟩
  have few : moved.Fits := by
    obtain ⟨many, all⟩ := carried.length
    refine ⟨nonempty, short, many ▸ fits.handlers, all ▸ fits.attributes.1, fun _ member => ?_⟩
    exact Nat.lt_of_le_of_lt (StoredCode.data_le member) small
  obtain ⟨rises, bounded⟩ := Body.decode_offsets redecoded
  have relocated : Relocated after.pool (stored.withBody index body)
      (moved.withBody place ⟨finals, encoded.offsets⟩) :=
    carried.of_rename.relocated rfl rfl (Body.decode_offsets decoded).1 rises
      fun position offset present => Nat.lt_succ_of_le
        (Nat.le_trans (bounded position offset present) short)
  exact ⟨_, Code.read_ok_iff.mpr ⟨moved, _, StoredCode.parse_ok_iff.mpr ⟨rfl, few⟩, redecoded, rfl⟩,
    relocated.catchTypes, relocated⟩

-- A body that drops a double word it loaded; the next instruction has a line, a variable until the
-- end of the code and the end of a handler's range behind it.
def droppingCode (load : Bytes) (next : UInt16) : StoredCode :=
  ⟨2, 1, load ++ [0x58, 0xB1], [⟨0, next + 1, next + 1, 0⟩],
    [⟨2, Bytes.u16 1 ++ Bytes.u16 next ++ Bytes.u16 7⟩,
      ⟨3, Bytes.u16 1 ++ Bytes.u16 next ++ Bytes.u16 2 ++ [0, 1, 0, 1, 0, 0]⟩]⟩

def droppingPool : Pool :=
  (((Pool.empty.append (.utf8 (.ofString "Code"))).append (.utf8 (.ofString "LineNumberTable"))).append
    (.utf8 (.ofString "LocalVariableTable"))).append (.long 5)

theorem droppingPool_built : droppingPool.Built := by
  refine .add (.add (.add (.add .refl ?_ ?_) ?_ ?_) ?_ ?_) ?_ ?_
  all_goals first | exact trivial | exact Nat.lt_of_sub_eq_succ rfl

theorem droppingCode_relocates : ∃ code after again,
    (Code.read 1 droppingPool).run (droppingCode [0x12, 4] 2).toBytes = .ok code ∧
    (code.rename .empty).toBytes ⟨droppingPool, #[]⟩ =
      .ok (Attribute.toBytes ⟨1, (droppingCode [0x14, 0, 4] 3).toBytes⟩) after ∧
    (Code.read 1 after.pool).run (droppingCode [0x14, 0, 4] 3).toBytes = .ok again ∧
    again.handlers.map Handler.catchType = code.handlers.map Handler.catchType ∧
    Relocated after.pool code again := by
  have decoded : Body.decode droppingPool [0x12, 4, 0x58, 0xB1] = .ok
      ⟨[.load ⟨0x12, .long 5, some 4⟩, .other 0x58 [], .other 0xB1 []], #[0, 2, 3, 4]⟩ := rfl
  let code := (droppingCode [0x12, 4] 2).withBody 1
    ⟨[.load ⟨0x12, .long 5, some 4⟩, .other 0x58 [], .other 0xB1 []], #[0, 2, 3, 4]⟩
  have accepted : (Code.read 1 droppingPool).run (droppingCode [0x12, 4] 2).toBytes = .ok code :=
    Code.read_ok_iff.mpr ⟨droppingCode [0x12, 4] 2, _,
      StoredCode.parse_ok_iff.mpr ⟨rfl, by decide, by decide, by decide, by decide, by decide⟩,
      decoded, rfl⟩
  have outcome : (match (code.rename .empty).toBytes ⟨droppingPool, #[]⟩ with
      | .ok written _ => some written
      | .error _ _ => none) =
        some (Attribute.toBytes ⟨1, (droppingCode [0x14, 0, 4] 3).toBytes⟩) := by
    decide +kernel
  cases ran : (code.rename .empty).toBytes ⟨droppingPool, #[]⟩ with
  | error =>
    rw [ran] at outcome
    cases outcome
  | ok written after =>
    rw [ran] at outcome
    obtain rfl := Option.some.inj outcome
    have read := Attribute.codec.read (show _ < 2 ^ 32 by decide)
      (Cursor.passed_all (Attribute.toBytes ⟨1, (droppingCode [0x14, 0, 4] 3).toBytes⟩))
    obtain ⟨again, found⟩ := toBytes_relocates accepted (.refl _) droppingPool_built.reachable .empty
      ran read rfl
    exact ⟨code, after, again, accepted, ran, found⟩

end Code
end ClassRename
