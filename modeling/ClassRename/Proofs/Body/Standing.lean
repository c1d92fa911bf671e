import ClassRename.Proofs.Body.Plain

namespace ClassRename
open Effects

namespace Instruction

def outgrows : Instruction → Bool
  | .load constant => constant.opcode = Opcode.ldc && constant.value.isWide
  | _ => false

def width (offset : Nat) : Instruction → Nat
  | .field _ => 3
  | .method call => 3 + (Body.callSuffix call).length
  | .load constant => if constant.opcode = Opcode.ldc then 2 else 3
  | .branch opcode _ => if Opcode.isWideJump opcode then 5 else 3
  | .tableSwitch _ _ _ targets => 1 + Body.padding (offset + 1) + 12 + 4 * targets.length
  | .lookupSwitch _ pairs => 1 + Body.padding (offset + 1) + 8 + 8 * pairs.length
  | .other _ operands => 1 + operands.length

theorem width_mapTargets (offset : Nat) (place : Nat → Nat) (instruction : Instruction) :
    (instruction.mapTargets place).width offset = instruction.width offset := by
  cases instruction <;> simp [mapTargets, width]

end Instruction

namespace Body
open Instruction

theorem length_callSuffix (call : Invocation) :
    (callSuffix call).length = if call.opcode = Opcode.invokeInterface then 2 else 0 := by
  unfold callSuffix
  split <;> rfl

theorem loadOpcode_narrow_iff {constant : ConstantLoad} {index : UInt16} :
    loadOpcode constant index = Opcode.ldc ↔
      constant.opcode = Opcode.ldc ∧ constant.value.isWide = false ∧ index ≤ 255 := by
  cases width : constant.value.isWide with
  | true =>
    rw [loadOpcode_wide width]
    simp [show Opcode.ldc2W ≠ Opcode.ldc by decide]
  | false =>
    by_cases high : constant.opcode = Opcode.ldc ∧ 255 < index
    · rw [loadOpcode_high width high.1 high.2]
      have far : ¬ index ≤ 255 := UInt16.not_le.mpr high.2
      simp [show Opcode.ldcW ≠ Opcode.ldc by decide, far]
    · rw [loadOpcode_kept width high]
      constructor
      · intro narrow
        exact ⟨narrow, rfl, UInt16.not_lt.mp fun beyond => high ⟨narrow, beyond⟩⟩
      · intro stated
        exact stated.1

theorem length_loadBytes (constant : ConstantLoad) (index : UInt16) :
    (loadBytes constant index).length =
      if loadOpcode constant index = Opcode.ldc then 2 else 3 := by
  unfold loadBytes
  dsimp only
  split <;> rfl

theorem Symbol.length_eq {opcode : UInt8} (shape : Opcode.layout opcode = .poolIndex extra.length)
    (symbol : Symbol pool opcode index extra instruction) :
    3 + extra.length = instruction.width offset := by
  cases symbol with
  | field family =>
    rw [Opcode.layout_of_field family] at shape
    injection shape with none
    rw [← none]
    rfl
  | method family =>
    rw [Opcode.layout_of_invocation family] at shape
    injection shape with same
    rw [width, length_callSuffix, same]
  | load family =>
    rw [Opcode.layout_of_wideLoad family] at shape
    injection shape with none
    rw [← none, width, if_neg (Opcode.ne_ldc_of_wideLoad family)]

theorem Spells.length_eq (spelled : Spells pool offset piece instruction) :
    piece.length = instruction.width offset := by
  cases spelled with
  | plain | narrowLoad => rfl
  | fixed | reference | wide => exact Nat.add_comm _ _
  | symbol shape read =>
    rw [← (symbolic?_ok_iff.mp read).length_eq shape]
    simp only [List.length_cons, List.length_append, Bytes.length_u16]
    omega
  | branch16 shape =>
    rw [width, (Opcode.isWideJump_eq _).1 shape]
    rfl
  | branch32 shape =>
    rw [width, (Opcode.isWideJump_eq _).2 shape, List.length_cons, length_word]
    rfl
  | tableSwitch skipped =>
    simp only [width, List.length_cons, List.length_append, length_word, Bytes.length_i32,
      length_flatMap_word, skipped]
    omega
  | lookupSwitch skipped =>
    simp only [width, List.length_cons, List.length_append, length_word,
      length_flatMap_pairBytes, skipped]
    omega

-- A narrow load keeps its two bytes; nothing else can change its length.
def Keeps : Instruction → Form → Prop
  | .load constant, form => constant.opcode = Opcode.ldc → form.size 0 = 2
  | _, _ => True

theorem keeps_load_iff {constant : ConstantLoad} {index : UInt16} :
    Keeps (.load constant) (.fixed (loadBytes constant index)) ↔
      (constant.opcode = Opcode.ldc → constant.value.isWide = false ∧ index ≤ 255) := by
  simp only [Keeps, Form.size, length_loadBytes, loadOpcode_narrow_iff]
  constructor
  · intro kept narrow
    by_contra far
    have length := kept narrow
    rw [if_neg fun stated => far stated.2] at length
    cases length
  · intro kept narrow
    rw [if_pos ⟨narrow, kept narrow⟩]

theorem Formed.size_eq_iff (formed : Formed index instruction form) :
    form.size offset = instruction.width offset ↔ Keeps instruction form := by
  cases formed with
  | @load constant =>
    rw [keeps_load_iff, Form.size, width, length_loadBytes]
    by_cases narrow : constant.opcode = Opcode.ldc
    · simp [narrow, loadOpcode_narrow_iff]
    · have wider : ¬ loadOpcode constant index = Opcode.ldc := fun same =>
        narrow (loadOpcode_narrow_iff.mp same).1
      simp [narrow, wider]
  | @method call =>
    simp only [Form.size, width, Keeps, iff_true, List.cons_append, List.length_cons,
      List.length_append, Bytes.length_u16]
    omega
  | field | branch | tableSwitch | lookupSwitch => exact iff_of_true rfl trivial
  | other => exact iff_of_true (Nat.add_comm _ _) trivial

structure Represents (instruction : Instruction) (form : Form) : Prop where
  size_eq_iff : ∀ offset, form.size offset = instruction.width offset ↔ Keeps instruction form
  targets : form.targets = instruction.targets
  branch : ∀ opcode target, form = .jump opcode target → instruction = .branch opcode target

theorem Formed.represents (formed : Formed index instruction form) :
    Represents instruction form := by
  refine ⟨fun offset => formed.size_eq_iff, ?_, ?_⟩
  · cases formed <;> rfl
  · intro opcode target same
    cases formed <;> cases same
    rfl

theorem Represents.reaches (represents : Represents final form)
    (spelled : Spells pool offset piece (final.mapTargets (place offsets)))
    (inside : ∀ target ∈ final.targets, target + 1 < offsets.size) :
    form.Reaches offsets offset := by
  refine ⟨by rwa [represents.targets], ?_⟩
  intro opcode target same narrow
  obtain rfl := represents.branch opcode target same
  cases spelled with
  | branch16 _ near => exact near
  | branch32 shape =>
    rw [(Opcode.isWideJump_eq _).2 shape] at narrow
    cases narrow
  | symbol _ read => cases symbolic?_ok_iff.mp read

theorem Walk.emitted (walk : Walk pool offset code starts (finals.map (·.mapTargets (place offsets))))
    (represented : List.Forall₂ Represents finals forms) (kept : List.Forall₂ Keeps finals forms)
    (inside : ∀ final ∈ finals, ∀ target ∈ final.targets, target + 1 < offsets.size) :
    ∃ written, Emitted offsets offset forms written starts ∧ written.length = code.length := by
  induction represented generalizing offset code starts with
  | nil =>
    cases walk
    exact ⟨[], .done, rfl⟩
  | @cons final form finals forms one others ih =>
    obtain ⟨stays, remaining⟩ := List.forall₂_cons.mp kept
    obtain ⟨aimed, behind⟩ := List.forall_mem_cons.mp inside
    cases walk with
    | @step _ piece _ code _ _ spelled tail =>
      have same : form.size offset = piece.length := by
        rw [spelled.length_eq, width_mapTargets]
        exact (one.size_eq_iff offset).mpr stays
      rw [← same] at tail
      obtain ⟨written, emitted, length⟩ := ih tail remaining behind
      refine ⟨_, .step (one.reaches spelled aimed) emitted, ?_⟩
      rw [List.length_append, List.length_append, Form.length_spelled, same, length]

theorem encode_short (ran : encode instructions pool = .ok body later) :
    body.code.length ≤ maxLength := by
  obtain ⟨_, _, laid⟩ := encode_ok_iff.mp ran
  obtain ⟨_, _, _, _, _, short⟩ := encodeForms_sound laid
  exact short

theorem Walk.first (walk : Walk pool offset code starts raws) :
    (starts ++ [offset + code.length]).head? = some offset := by
  cases walk <;> rfl

theorem Emitted.first (emitted : Emitted offsets offset forms code starts) :
    (starts ++ [offset + code.length]).head? = some offset := by
  cases emitted <;> rfl

theorem Walk.kept (walk : Walk pool offset code starts (finals.map (·.mapTargets (place offsets))))
    (represented : List.Forall₂ Represents finals forms)
    (widened : List.Forall₂ Widened forms settled)
    (emitted : Emitted offsets offset settled written starts)
    (same : written.length = code.length) : List.Forall₂ Keeps finals forms := by
  induction represented generalizing offset code starts settled written with
  | nil => exact .nil
  | @cons final form finals forms one others ih =>
    cases widened with
    | @cons _ wider _ settled grown widened =>
      cases walk with
      | @step _ piece _ code _ _ spelled tail =>
        cases emitted with
        | @step _ _ _ written _ reaches rest =>
          rw [List.length_append, List.length_append, Form.length_spelled] at same
          -- What is left ends at one place, and it begins with the same offset in both lists.
          have next : offset + wider.size offset = offset + piece.length := by
            have ends : offset + wider.size offset + written.length =
              offset + piece.length + code.length := by omega
            have first := rest.first
            rw [ends, tail.first] at first
            exact (Option.some.inj first).symm
          rw [next] at rest
          refine .cons ?_ (ih tail widened rest (by omega))
          cases grown with
          | same =>
            have size := Nat.add_left_cancel next
            rw [spelled.length_eq, width_mapTargets] at size
            exact (one.size_eq_iff offset).mp size
          | wide =>
            obtain rfl := one.branch _ _ rfl
            trivial

-- Forms that stand for decoded instructions are laid out at the old offsets exactly when no form
-- outgrows the bytes that its instruction was read from.
theorem encodeForms_stands_iff (decoded : decode pool code = .ok body)
    (short : code.length ≤ maxLength)
    (represented : List.Forall₂ Represents body.instructions forms) :
    (∃ written, encodeForms forms = .ok ⟨written, body.offsets⟩) ↔
      List.Forall₂ Keeps body.instructions forms := by
  obtain ⟨starts, offsets, walk, inside⟩ := decode_ok_iff.mp decoded
  constructor
  · intro stated
    rcases stated with ⟨written, ran⟩
    obtain ⟨settled, placed, widened, emitted, listed, _⟩ := encodeForms_sound ran
    dsimp only at emitted listed
    obtain ⟨rfl, length⟩ : placed = starts ∧ written.length = code.length := by
      rw [offsets] at listed
      have both := congrArg Array.toList listed
      simpa [eq_comm] using both
    exact walk.kept represented widened emitted length
  · intro kept
    obtain ⟨written, emitted, length⟩ :=
      walk.emitted represented kept fun final member target aimed => by
        rw [offsets, Array.size_push, List.size_toArray]
        exact Nat.succ_lt_succ (inside final member target aimed)
    exact ⟨written, encodeForms_of_laidOut ⟨emitted, by rw [offsets, length], length ▸ short⟩⟩

theorem Spells.resolves (spelled : Spells pool offset piece (final.mapTargets (place offsets))) :
    ∃ form, resolve final pool = .ok form pool ∧ (Keeps final form ↔ final.outgrows = false) := by
  cases final with
  | branch | tableSwitch | lookupSwitch | other => exact ⟨_, rfl, iff_of_true trivial rfl⟩
  | field | method =>
    cases spelled with
    | symbol _ read =>
      obtain ⟨form, _, ran⟩ := (symbolic?_ok_iff.mp read).resolves
      exact ⟨form, ran, iff_of_true trivial rfl⟩
  | load =>
    cases spelled with
    | @narrowLoad value index loaded =>
      refine ⟨_, run_bind_iff.mpr ⟨_, pool, Pool.loadableIndex_reuses loaded, rfl⟩, ?_⟩
      simp [keeps_load_iff, outgrows, toUInt16_low index]
    | symbol _ read =>
      have symbol := symbolic?_ok_iff.mp read
      obtain ⟨form, formed, ran⟩ := symbol.resolves
      refine ⟨form, ran, ?_⟩
      cases symbol with
      | load family =>
        cases formed
        simp [keeps_load_iff, outgrows, Opcode.ne_ldc_of_wideLoad family]

theorem encode_stands_iff (decoded : decode pool code = .ok body) (short : code.length ≤ maxLength) :
    (∃ written, encode body.instructions pool = .ok ⟨written, body.offsets⟩ pool) ↔
      ∀ instruction ∈ body.instructions, instruction.outgrows = false := by
  obtain ⟨starts, decodes⟩ := decode_ok_iff.mp decoded
  have each : ∀ instruction ∈ body.instructions, ∃ form, resolve instruction pool = .ok form pool ∧
      (Keeps instruction form ↔ instruction.outgrows = false) := by
    intro instruction member
    obtain ⟨_, _, spelled⟩ := decodes.walk.spelled _ (List.mem_map_of_mem member)
    exact spelled.resolves
  obtain ⟨forms, found⟩ := forall₂_exists each
  have resolved := found.imp fun _ _ one => one.1
  have kept := found.imp fun _ _ one => one.2
  have stands := encodeForms_stands_iff decoded short
    (resolved.imp fun _ _ ran => by
      obtain ⟨_, formed⟩ := resolve_formed ran
      exact formed.represents)
  rw [← forall₂_iff_forall kept, ← stands]
  have ran := mapM_still resolved
  constructor
  · intro stated
    rcases stated with ⟨written, encoded⟩
    obtain ⟨_, again, laid⟩ := encode_ok_iff.mp encoded
    rw [ran] at again
    cases again
    exact ⟨written, laid⟩
  · intro stated
    rcases stated with ⟨written, laid⟩
    exact ⟨written, encode_ok_iff.mpr ⟨forms, ran, laid⟩⟩

end Body
end ClassRename
