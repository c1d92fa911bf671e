import ClassRename.Proofs.Body.Standing
import ClassRename.Proofs.ClassFile.Rereading

namespace ClassRename
open Effects

theorem Code.encode_stands_iff (ran : (Code.read index pool).run data = .ok code) :
    ∃ offsets, code.offsets = some offsets ∧
      ((∃ written, Body.encode code.instructions pool = .ok ⟨written, offsets⟩ pool) ↔
        ∀ instruction ∈ code.instructions, instruction.outgrows = false) := by
  obtain ⟨stored, body, parsed, decoded, rfl⟩ := Code.read_ok_iff.mp ran
  obtain ⟨_, fits⟩ := StoredCode.parse_ok_iff.mp parsed
  exact ⟨body.offsets, rfl, Body.encode_stands_iff decoded fits.short⟩

theorem Code.still_of_read (ran : (Code.read index pool).run data = .ok code)
    (named : pool.text index = .ok attributeName)
    (single : ∀ instruction ∈ code.instructions, instruction.outgrows = false) :
    ∃ written : Attribute, Writing.Still pool code.toBytes written.toBytes := by
  obtain ⟨stored, body, parsed, decoded, rfl⟩ := Code.read_ok_iff.mp ran
  obtain ⟨_, fits⟩ := StoredCode.parse_ok_iff.mp parsed
  obtain ⟨written, encoded⟩ := (Body.encode_stands_iff decoded fits.short).mpr single
  let rewritten : StoredCode := { stored with code := written }
  have still : Writing.Still pool (rewritten.withBody index body).toBytes
      (Attribute.toBytes ⟨index, rewritten.toBytes⟩) :=
    Code.toBytes_still named encoded (Body.encode_short encoded)
  exact ⟨_, still⟩

theorem MethodAttribute.Resolved.still (resolved : Resolved pool entry item)
    (single : ∀ code, item.code? = some code →
      ∀ instruction ∈ code.instructions, instruction.outgrows = false) :
    ∃ written : Attribute, Writing.Still pool item.toBytes written.toBytes := by
  cases resolved with
  | code named parsed decoded =>
    exact Code.still_of_read (Code.read_ok_iff.mpr ⟨_, _, parsed, decoded, rfl⟩) named (single _ rfl)
  | other => exact ⟨entry, fun _ => rfl⟩

theorem Method.Resolved.still (resolved : Resolved pool stored method)
    (single : ∀ item ∈ method.attributes, ∀ code, item.code? = some code →
      ∀ instruction ∈ code.instructions, instruction.outgrows = false) :
    ∃ written : Field, Writing.Still pool method.toBytes written.toBytes := by
  obtain ⟨_, nameIndex, descriptorIndex, name, descriptor, attributes⟩ := resolved
  have each : ∀ item ∈ method.attributes, ∃ written : Attribute,
      Writing.Still pool item.toBytes written.toBytes := by
    intro item member
    obtain ⟨_, _, resolved⟩ := forall₂_partner attributes member
    exact resolved.still (single item member)
  obtain ⟨entries, still⟩ := forall₂_exists each
  exact ⟨_, toBytes_of_attributes nameIndex name descriptorIndex descriptor still.flip⟩

namespace ClassFile

theorem mem_allBodies_iff {file : ClassFile} : code ∈ file.allBodies ↔
    ∃ method ∈ file.methods, ∃ item ∈ method.attributes, item.code? = some code := by
  simp [allBodies]

theorem read_of_parse (parsed : parse data = .ok file) (member : code ∈ file.allBodies) :
    ∃ index payload, file.pool.text index = .ok Code.attributeName ∧
      (Code.read index file.pool).run payload = .ok code := by
  obtain ⟨stored, _, resolved⟩ := parse_ok_iff.mp parsed
  obtain ⟨method, defined, item, listed, found⟩ := mem_allBodies_iff.mp member
  obtain ⟨_, _, method⟩ := forall₂_partner resolved.methods defined
  obtain ⟨entry, _, item⟩ := forall₂_partner method.attributes listed
  rw [← resolved.pool] at item
  cases item with
  | code named parsed decoded =>
    cases found
    exact ⟨entry.name, entry.data, named, Code.read_ok_iff.mpr ⟨_, _, parsed, decoded, rfl⟩⟩
  | other => cases found

theorem toBytes_of_single (parsed : parse data = .ok file)
    (single : ∀ code ∈ file.allBodies, ∀ instruction ∈ code.instructions,
      instruction.outgrows = false) (log : Log) : ∃ written, file.toBytes log = .ok written log := by
  obtain ⟨stored, _, resolved⟩ := parse_ok_iff.mp parsed
  have each : ∀ method ∈ file.methods, ∃ written : Field,
      Writing.Still file.pool method.toBytes written.toBytes := by
    intro method defined
    obtain ⟨_, _, read⟩ := forall₂_partner resolved.methods defined
    rw [← resolved.pool] at read
    exact read.still fun item listed code found =>
      single code (mem_allBodies_iff.mpr ⟨method, defined, item, listed, found⟩)
  obtain ⟨methods, still⟩ := forall₂_exists each
  exact ⟨_, toBytes_of_methods (Writing.still_mapM still.flip log)⟩

-- A body is encoded at its old offsets exactly when it has no narrow load of a double word, and a
-- class without such a load can be written, with nothing to tell about it.
theorem toBytes_untouched (parsed : parse data = .ok file) :
    (∀ code ∈ file.allBodies, ∃ offsets, code.offsets = some offsets ∧
      ((∃ written, Body.encode code.instructions file.pool = .ok ⟨written, offsets⟩ file.pool) ↔
        ∀ instruction ∈ code.instructions, instruction.outgrows = false)) ∧
    ((∀ code ∈ file.allBodies, ∀ instruction ∈ code.instructions, instruction.outgrows = false) →
      ∀ log, ∃ written, file.toBytes log = .ok written log) := by
  refine ⟨fun code member => ?_, fun single log => toBytes_of_single parsed single log⟩
  obtain ⟨_, _, _, ran⟩ := read_of_parse parsed member
  exact Code.encode_stands_iff ran

def loadingClass (load : Bytes) : Bytes :=
  [0xCA, 0xFE, 0xBA, 0xBE, 0, 0, 0, 52, 0, 8, 1, 0, 1, 65, 7, 0, 1, 1, 0, 4, 67, 111, 100, 101,
    1, 0, 3, 40, 41, 86, 5, 0, 0, 0, 0, 0, 0, 0, 5, 1, 0, 29] ++
    "RuntimeVisibleTypeAnnotations".toUTF8.toList ++
    [0, 33, 0, 2, 0, 0, 0, 0, 0, 0, 0, 1, 0, 1, 0, 1, 0, 4, 0, 1, 0, 3] ++
    Bytes.ofNat 4 (load.length + 22) ++ [0, 2, 0, 0] ++ Bytes.ofNat 4 (load.length + 2) ++ load ++
    [0x58, 0xB1, 0, 0, 0, 1, 0, 7, 0, 0, 0, 2, 0, 0, 0, 0]

-- The narrow load is refused: it is written with a byte more, and the annotations cannot follow.
theorem loadingClass_refused : ∃ file log, parse (loadingClass [0x12, 5]) = .ok file ∧
    file.toBytes #[] = .error (.relayout (.notCarried "RuntimeVisibleTypeAnnotations")) log := by
  have outcome : (parse (loadingClass [0x12, 5])).toOption.map (fun file =>
      match file.toBytes #[] with
      | .ok _ _ => none
      | .error error _ => some error) =
        some (some (.relayout (.notCarried "RuntimeVisibleTypeAnnotations"))) := by
    decide +kernel
  cases parsed : parse (loadingClass [0x12, 5]) with
  | error =>
    rw [parsed] at outcome
    cases outcome
  | ok file =>
    rw [parsed] at outcome
    cases written : file.toBytes #[] with
    | ok =>
      simp [Except.toOption, written] at outcome
    | error error log =>
      simp only [Except.toOption, written, Option.map_some, Option.some.injEq] at outcome
      exact ⟨file, log, rfl, by rw [written, outcome]⟩

theorem loadingClass_written : ∃ file, parse (loadingClass [0x14, 0, 5]) = .ok file ∧
    (∃ code ∈ file.allBodies, code.offsets = some #[0, 3, 4, 5] ∧
      ∃ written, Body.encode code.instructions file.pool = .ok ⟨written, #[0, 3, 4, 5]⟩ file.pool) ∧
    ∀ log, ∃ written, file.toBytes log = .ok written log := by
  have whole : (parse (loadingClass [0x14, 0, 5])).toOption.map (fun file => file.allBodies.map
      fun code => (code.instructions, code.offsets)) =
        some [([.load ⟨0x14, .long 5, some 5⟩, .other 0x58 [], .other 0xB1 []],
          some #[0, 3, 4, 5])] := by
    decide +kernel
  cases parsed : parse (loadingClass [0x14, 0, 5]) with
  | error =>
    rw [parsed] at whole
    cases whole
  | ok file =>
    rw [parsed] at whole
    obtain ⟨code, bodies, instructions, offsets⟩ :
        ∃ code, file.allBodies = [code] ∧ code.instructions = [.load ⟨0x14, .long 5, some 5⟩,
          .other 0x58 [], .other 0xB1 []] ∧ code.offsets = some #[0, 3, 4, 5] := by
      simpa [Except.toOption, List.map_eq_singleton_iff] using whole
    obtain ⟨stands, written⟩ := toBytes_untouched parsed
    have single : ∀ instruction ∈ code.instructions, instruction.outgrows = false := by
      rw [instructions]
      decide
    obtain ⟨_, same, encoded⟩ := stands code (by simp [bodies])
    rw [offsets] at same
    cases same
    refine ⟨file, rfl, ⟨code, by simp [bodies], offsets, encoded.mpr single⟩, written ?_⟩
    rw [bodies]
    exact List.forall_mem_singleton.mpr single

end ClassFile
end ClassRename
