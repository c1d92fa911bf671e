import ClassRename.Proofs.Body.Recoding

namespace ClassRename
open Effects

inductive Instruction.Fits (pool : Pool) : Instruction → Prop where
  | wellFormed (wellFormed : WellFormed pool instruction) : Fits pool instruction
  | indexed {opcode : UInt8} (family : opcode = Opcode.ldc ∨ Opcode.isWideLoad opcode = true)
      (loaded : pool.loadable index = .ok value) : Fits pool (.load ⟨opcode, .other index, hint⟩)

theorem Instruction.Fits.extends (extended : Pool.Extends earlier later)
    (fits : Fits earlier instruction) : Fits later instruction := by
  cases fits with
  | wellFormed wellFormed => exact .wellFormed (wellFormed.extends extended)
  | indexed family loaded => exact .indexed family (Pool.loadable_extends extended loaded)

namespace Pool

theorem loadableIndex_other (ran : loadableIndex hint (.other given) pool = .ok index later) :
    index = given ∧ later = pool := by
  unfold loadableIndex at ran
  split at ran
  · rename_i reused
    cases ran
    have loads := (Option.filter_eq_some_iff.mp reused).2
    exact ⟨(index_of_other (loads_iff.mp loads)).symm, rfl⟩
  · simp only [internLoadable] at ran
    split at ran
    · cases ran
      exact ⟨rfl, rfl⟩
    · cases ran

end Pool

namespace Body
open Instruction

-- Through a two-byte index any loadable constant can be read, if only as raw operands.
theorem reads_wideLoad {opcode : UInt8} (family : Opcode.isWideLoad opcode = true)
    (loaded : pool.loadable index = .ok value) :
    ∃ final, Form.Reads pool (.fixed (opcode :: Bytes.u16 index)) final := by
  have shape := Opcode.layout_of_wideLoad family
  cases legible : pool.reachesOpaqueText index with
  | true =>
    refine ⟨.other opcode (Bytes.u16 index), .fixed (fun offset => ?_) rfl⟩
    rw [← List.append_nil (Bytes.u16 index)]
    exact .reference shape (symbolic?_none_iff.mpr (.inl legible))
  | false =>
    have handled := (reachesOpaqueText_eq_false_iff loaded).mp legible
    refine ⟨.load ⟨opcode, value, some index⟩, .fixed (fun offset => ?_) rfl⟩
    rw [← List.append_nil (Bytes.u16 index)]
    exact .symbol shape (symbolic?_ok_iff.mpr (.load family loaded handled))

theorem reads_indexed {opcode : UInt8} (family : opcode = Opcode.ldc ∨ Opcode.isWideLoad opcode = true)
    (loaded : pool.loadable index = .ok value) :
    ∃ final, Form.Reads pool (.fixed (loadBytes ⟨opcode, .other index, hint⟩ index)) final := by
  rw [loadBytes]
  by_cases high : opcode = Opcode.ldc ∧ 255 < index
  · rw [loadOpcode_high rfl high.1 high.2]
    exact reads_wideLoad rfl loaded
  · rw [loadOpcode_kept rfl high]
    rcases family with rfl | wide
    · have low : index ≤ 255 := by simpa using high
      refine ⟨.load ⟨Opcode.ldc, value, some index.toUInt8.toUInt16⟩, .fixed (fun offset => ?_) rfl⟩
      exact .narrowLoad (by rwa [toUInt8_toUInt16 low])
    · dsimp only
      rw [if_neg (Opcode.ne_ldc_of_wideLoad wide)]
      exact reads_wideLoad wide loaded

theorem resolve_reads (sound : Pool.Sound pool) (fits : Fits pool instruction)
    (ran : resolve instruction pool = .ok form later) :
    Pool.Grown pool later ∧ ∃ final, Form.Reads later form final := by
  cases fits with
  | wellFormed wellFormed =>
    obtain ⟨grown, final, settled⟩ := resolve_sound sound wellFormed ran
    exact ⟨grown, final, settled.reads⟩
  | indexed family loaded =>
    obtain ⟨index, _, found, ran⟩ := run_bind_iff.mp ran
    obtain ⟨rfl, rfl⟩ := run_pure_iff.mp ran
    obtain ⟨rfl, rfl⟩ := Pool.loadableIndex_other found
    exact ⟨.refl, reads_indexed family loaded⟩

theorem Form.Reads.widened (reads : Form.Reads pool form final) (widened : Widened form wider) :
    ∃ final, Form.Reads pool wider final := by
  cases widened with
  | same => exact ⟨final, reads⟩
  | wide narrow =>
    refine ⟨_, .jump (.inr ?_)⟩
    rcases Opcode.narrow_cases narrow with rfl | rfl <;> rfl

theorem encode_accepted (sound : Pool.Sound pool)
    (fits : ∀ instruction ∈ instructions, Fits pool instruction)
    (ran : encode instructions pool = .ok body later) :
    Pool.Grown pool later ∧ ∃ decoded, decode later body.code = .ok decoded ∧
      decoded.instructions.length = instructions.length ∧ body.code.length ≤ maxLength := by
  obtain ⟨forms, resolved, written⟩ := encode_ok_iff.mp ran
  obtain ⟨_, grown, readable⟩ := mapM_run Pool.Sound Pool.Grown
    (fun instruction pool => Fits pool instruction)
    (fun _ form pool => ∃ final, Form.Reads pool form final)
    (fun _ => .refl) (fun _ _ _ => Pool.Grown.trans)
    (fun _ _ _ ready grown => ready.extends grown.extends)
    (fun _ _ _ _ ⟨final, reads⟩ grown => ⟨final, reads.extends grown.extends⟩)
    (fun _ _ _ _ sound ready ran => by
      obtain ⟨grown, reads⟩ := resolve_reads sound ready ran
      exact ⟨grown.sound sound, grown, reads⟩)
    sound fits resolved
  obtain ⟨wider, starts, widened, laidOut⟩ := encodeForms_sound written
  have settled : List.Forall₂ (fun _ form => ∃ final, True ∧ Form.Reads later form final)
      instructions wider :=
    forall₂_trans (fun _ _ _ ⟨_, reads⟩ widened => by
      obtain ⟨final, wide⟩ := reads.widened widened
      exact ⟨final, trivial, wide⟩) readable widened
  obtain ⟨finals, counted, reads⟩ := forall₂_choose settled
  exact ⟨grown, ⟨finals, body.offsets⟩, decode_ok_iff.mpr ⟨starts, laidOut.decodes reads⟩,
    counted.length_eq.symm, laidOut.short⟩

end Body
end ClassRename
