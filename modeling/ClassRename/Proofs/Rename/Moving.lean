import ClassRename.Proofs.Body.Promotion
import ClassRename.Proofs.Rename.Renaming

namespace ClassRename
open Effects

def Instruction.isNarrowLoad : Instruction → Bool
  | .load constant => constant.opcode = Opcode.ldc
  | _ => false

namespace Body
open Instruction

def constantIndex : Instruction → Interning (Option UInt16)
  | .field access => some <$> Pool.memberIndex access.index access.member
  | .method call => some <$> Pool.memberIndex call.index call.member
  | .load constant => some <$> Pool.loadableIndex constant.index constant.value
  | _ => pure none

-- The index does not fit where the instruction has its index.
def Stretched (instruction : Instruction) (index : Option UInt16) : Prop :=
  instruction.isNarrowLoad = true ∧ ∃ far ∈ index, 255 < far

instance (instruction : Instruction) (index : Option UInt16) :
    Decidable (Stretched instruction index) :=
  inferInstanceAs (Decidable (_ ∧ _))

theorem resolve_of_constantIndex (ran : constantIndex instruction pool = .ok index later) :
    ∃ form, resolve instruction pool = .ok form later ∧ Formed (index.getD 0) instruction form := by
  cases instruction with
  | field | method | load =>
    obtain ⟨found, held, rfl⟩ := run_map_iff.mp ran
    exact ⟨_, run_bind_iff.mpr ⟨found, later, held, rfl⟩, by constructor⟩
  | branch | tableSwitch | lookupSwitch | other =>
    obtain ⟨rfl, rfl⟩ := run_pure_iff.mp ran
    exact ⟨_, rfl, by constructor⟩

theorem mapM_resolve {instructions : List Instruction} {found : List (Option UInt16)}
    (ran : instructions.mapM constantIndex pool = .ok found later) :
    found.length = instructions.length ∧ ∃ forms, instructions.mapM resolve pool = .ok forms later ∧
      List.Forall₂ (fun pair form => Formed (pair.2.getD 0) pair.1 form)
        (instructions.zip found) forms := by
  induction instructions generalizing pool found with
  | nil =>
    obtain ⟨rfl, rfl⟩ := run_pure_iff.mp ran
    exact ⟨rfl, [], rfl, .nil⟩
  | cons instruction rest ih =>
    simp only [List.mapM_cons, run_bind_iff, run_pure_iff] at ran ⊢
    obtain ⟨index, middle, first, others, _, tail, rfl, rfl⟩ := ran
    obtain ⟨form, resolved, formed⟩ := resolve_of_constantIndex first
    obtain ⟨length, forms, behind, related⟩ := ih tail
    refine ⟨congrArg Nat.succ length, _, ⟨form, _, resolved, forms, _, behind, rfl, rfl⟩, ?_⟩
    exact .cons formed related

theorem Formed.keeps_iff (formed : Formed (index.getD 0) instruction form)
    (single : instruction.outgrows = false) :
    Keeps instruction form ↔ ¬ Stretched instruction index := by
  cases formed with
  | @load constant =>
    rw [keeps_load_iff]
    constructor
    · rintro kept ⟨narrow, far, rfl, beyond⟩
      exact UInt16.not_lt.mpr (kept (of_decide_eq_true narrow)).2 beyond
    · intro near narrow
      refine ⟨by simpa [outgrows, narrow] using single, ?_⟩
      cases index with
      | none => decide
      | some far =>
        exact UInt16.not_lt.mp fun beyond => near ⟨decide_eq_true narrow, far, rfl, beyond⟩
  | _ =>
    refine iff_of_true trivial ?_
    rintro ⟨narrow, _⟩
    cases narrow

-- Instructions that take the same room and lead to the same places.
structure SameShape (before after : Instruction) : Prop where
  width : ∀ offset, after.width offset = before.width offset
  targets : after.targets = before.targets
  narrow : after.isNarrowLoad = before.isNarrowLoad
  outgrows : after.outgrows = before.outgrows
  keeps : ∀ form, Keeps after form ↔ Keeps before form
  branch : ∀ opcode target, after = .branch opcode target → before = .branch opcode target

theorem SameShape.refl (instruction : Instruction) : SameShape instruction instruction :=
  ⟨fun _ => rfl, rfl, rfl, rfl, fun _ => .rfl, fun _ _ same => same⟩

theorem rename_sameShape (table : RenameTable) (instruction : Instruction) :
    SameShape instruction (instruction.rename table) := by
  rcases rename_cases table instruction with ⟨_, same⟩ | replaced
  · rw [same]
    exact .refl instruction
  · generalize instruction.rename table = renamed at replaced
    cases replaced with
    | field | load =>
      exact ⟨fun _ => rfl, rfl, rfl, rfl, fun _ => .rfl, fun _ _ same => by cases same⟩
    | method =>
      refine ⟨fun _ => ?_, rfl, rfl, rfl, fun _ => .rfl, fun _ _ same => by cases same⟩
      rw [width, width, length_callSuffix, length_callSuffix]

theorem Represents.of_sameShape (represents : Represents after form)
    (shaped : SameShape before after) : Represents before form := by
  refine ⟨fun offset => ?_, represents.targets.trans shaped.targets, fun opcode target same => ?_⟩
  · rw [← shaped.width, represents.size_eq_iff, shaped.keeps]
  · exact shaped.branch _ _ (represents.branch _ _ same)

theorem represented_of_sameShape {edit : Instruction → Instruction} {found : List (Option UInt16)}
    (shaped : ∀ instruction, SameShape instruction (edit instruction)) {olds : List Instruction}
    (single : ∀ old ∈ olds, old.outgrows = false)
    (ran : (olds.map edit).mapM constantIndex given = .ok found later) :
    found.length = olds.length ∧ ∃ forms, (olds.map edit).mapM resolve given = .ok forms later ∧
      List.Forall₂ Represents olds forms ∧
      (List.Forall₂ Keeps olds forms ↔ ∀ pair ∈ olds.zip found, ¬ Stretched pair.1 pair.2) := by
  obtain ⟨length, forms, resolved, formed⟩ := mapM_resolve ran
  rw [List.length_map] at length
  rw [List.zip_map_left, List.forall₂_map_left_iff] at formed
  have firsts : (olds.zip found).map Prod.fst = olds := List.map_fst_zip (Nat.le_of_eq length.symm)
  have alone : ∀ pair ∈ olds.zip found, pair.1.outgrows = false := fun pair member =>
    single pair.1 (firsts ▸ List.mem_map_of_mem member)
  have each : List.Forall₂ (fun pair form => Represents pair.1 form ∧
      (Keeps pair.1 form ↔ ¬ Stretched pair.1 pair.2)) (olds.zip found) forms := by
    refine ((List.forall₂_and_left _ _).mpr ⟨alone, formed⟩).imp ?_
    rintro ⟨old, index⟩ form ⟨single, one⟩
    have shape := shaped old
    refine ⟨one.represents.of_sameShape shape, ?_⟩
    have kept : Keeps (edit old) form ↔ ¬ Stretched (edit old) index :=
      one.keeps_iff (shape.outgrows.trans single)
    rwa [shape.keeps, Stretched, shape.narrow] at kept
  have kept := forall₂_iff_forall (each.imp fun _ _ one => one.2)
  refine ⟨length, forms, resolved, ?_, ?_⟩
  · rw [← firsts, List.forall₂_map_left_iff]
    exact each.imp fun _ _ one => one.1
  · rw [← kept]
    conv_lhs => rw [← firsts, List.forall₂_map_left_iff]

theorem targets_within (decoded : decode pool code = .ok body)
    (represented : List.Forall₂ Represents body.instructions forms) :
    ∀ form ∈ forms, ∀ target ∈ form.targets, target < forms.length := by
  obtain ⟨starts, _, walk, within⟩ := decode_ok_iff.mp decoded
  intro form member target aimed
  obtain ⟨old, listed, one⟩ := forall₂_partner represented member
  have bound := within old listed target (one.targets ▸ aimed)
  rw [walk.length, List.length_map] at bound
  rwa [← represented.length_eq]

theorem encode_stretched (decoded : decode pool code = .ok body) (short : code.length ≤ maxLength)
    (single : ∀ instruction ∈ body.instructions, instruction.outgrows = false)
    {edit : Instruction → Instruction}
    (shaped : ∀ instruction, SameShape instruction (edit instruction))
    (ran : (body.instructions.map edit).mapM constantIndex given = .ok found later) :
    found.length = body.instructions.length ∧
    ((∀ pair ∈ body.instructions.zip found, ¬ Stretched pair.1 pair.2) →
      ∃ written, encode (body.instructions.map edit) given = .ok ⟨written, body.offsets⟩ later) ∧
    ((∃ pair ∈ body.instructions.zip found, Stretched pair.1 pair.2) →
      (∃ obstacle, encode (body.instructions.map edit) given = .error (.relayout obstacle) later) ∨
      ∃ moved, encode (body.instructions.map edit) given = .ok moved later ∧
        moved.offsets ≠ body.offsets) := by
  obtain ⟨length, forms, resolved, represented, kept⟩ := represented_of_sameShape shaped single ran
  have stands := (encodeForms_stands_iff decoded short represented).trans kept
  refine ⟨length, fun still => ?_, fun stretched => ?_⟩
  · obtain ⟨written, laid⟩ := stands.mpr still
    exact ⟨written, encode_ok_iff.mpr ⟨forms, resolved, laid⟩⟩
  · cases laid : encodeForms forms with
    | ok moved =>
      refine .inr ⟨moved, encode_ok_iff.mpr ⟨forms, resolved, laid⟩, fun same => ?_⟩
      obtain ⟨pair, member, beyond⟩ := stretched
      exact stands.mp ⟨moved.code, by rw [laid, ← same]⟩ pair member beyond
    | error error =>
      obtain ⟨obstacle, rfl⟩ := encodeForms_refused (targets_within decoded represented) laid
      exact .inl ⟨obstacle, encode_of_refused resolved laid⟩

-- For any table and any pool that has indices for the renamed instructions. Where none is stretched,
-- what is written around the code is what there was.
theorem rename_moves (decoded : decode pool code = .ok body) (short : code.length ≤ 65535)
    (single : ∀ instruction ∈ body.instructions, instruction.outgrows = false)
    (table : RenameTable)
    (ran : (rename table body.instructions).mapM constantIndex given = .ok found later) :
    found.length = body.instructions.length ∧
    ((∀ pair ∈ body.instructions.zip found, ¬ Stretched pair.1 pair.2) →
      ∃ written, encode (rename table body.instructions) given = .ok ⟨written, body.offsets⟩ later ∧
        ∀ (stored : Code) (before : Pool) (index : UInt16) (log : Log),
          stored.instructions = body.instructions → stored.offsets = some body.offsets →
          stored.nameIndex before = .ok index given →
            (stored.rename table).toBytes ⟨before, log⟩ =
              .ok (Attribute.toBytes ⟨index, stored.payload ⟨written, body.offsets⟩ stored.handlers
                stored.attributes⟩) ⟨later, log⟩) ∧
    ((∃ pair ∈ body.instructions.zip found, Stretched pair.1 pair.2) →
      (∃ obstacle, encode (rename table body.instructions) given =
        .error (.relayout obstacle) later) ∨
      ∃ moved, encode (rename table body.instructions) given = .ok moved later ∧
        moved.offsets ≠ body.offsets) := by
  obtain ⟨length, stays, moves⟩ :=
    encode_stretched decoded short single (rename_sameShape table) ran
  refine ⟨length, fun still => ?_, moves⟩
  obtain ⟨written, encoded⟩ := stays still
  refine ⟨written, encoded, fun stored before index log same known named => ?_⟩
  have renamed : encode (stored.rename table).instructions given =
      .ok ⟨written, body.offsets⟩ later := by
    rw [Code.rename, same]
    exact encoded
  have reused : (stored.rename table).nameIndex before = .ok index given := named
  exact Code.toBytes_of_encoded reused renamed
    (fun old read => Option.some.inj (read.symm.trans known)) log

end Body

namespace Pool

def crowd (count : Nat) (pool : Pool) : Pool :=
  (List.range count).foldl (fun pool value => pool.append (.integer (Int32.ofNat value))) pool

theorem crowd_succ (count : Nat) (pool : Pool) :
    crowd (count + 1) pool = (crowd count pool).append (.integer (Int32.ofNat count)) := by
  rw [crowd, List.range_succ, List.foldl_append]
  rfl

theorem crowd_size (count : Nat) (pool : Pool) : (crowd count pool).size = pool.size + count := by
  induction count with
  | zero => rfl
  | succ count ih =>
    rw [crowd_succ, size_append, ih]
    rfl

theorem crowd_grown (room : pool.size + count ≤ capacity) : Grown pool (crowd count pool) := by
  induction count with
  | zero => exact .refl
  | succ count ih =>
    rw [crowd_succ]
    refine (ih (by omega)).add trivial ?_
    rw [crowd_size]
    exact room

theorem mem_crowd {constant : Constant} (member : constant ∈ (crowd count pool).slots) :
    constant ∈ pool.slots ∨ ∃ value, constant = .integer value := by
  induction count with
  | zero => exact .inl member
  | succ count ih =>
    rw [crowd_succ, mem_append_iff rfl] at member
    rcases member with before | rfl
    · exact ih before
    · exact .inr ⟨_, rfl⟩

end Pool

namespace Body
open ClassFile (mirrorPool mirrorPool_built mirrorTable mirrorTable_known mirrorInstructions
  mirrorRenamed mirrorInstructions_rename)

theorem mirrorRenamed_indices (sound : Pool.Sound pool)
    (text : .utf8 (.ofString "B") ∉ pool.slots)
    (name : .classRef (UInt16.ofNat pool.size) ∉ pool.slots) (room : pool.size + 2 ≤ Pool.capacity) :
    ∃ later, mirrorRenamed.mapM constantIndex pool =
      .ok [some (UInt16.ofNat (pool.size + 1)), none] later := by
  have first : Pool.internText "B" pool =
      .ok (UInt16.ofNat pool.size) (pool.append (.utf8 (.ofString "B"))) :=
    Pool.intern_fresh sound text (Nat.le_of_succ_le room)
  have added : Pool.Sound (pool.append (.utf8 (.ofString "B"))) :=
    Pool.append_sound sound (Nat.le_of_succ_le room)
  have absent : .classRef (UInt16.ofNat pool.size) ∉
      (pool.append (.utf8 (.ofString "B"))).slots := by
    rw [Pool.mem_append_iff rfl]
    rintro (before | same)
    · exact name before
    · cases same
  have second := Pool.intern_fresh added absent (by rw [Pool.size_append]; exact room)
  have loaded : constantIndex (.load ⟨Opcode.ldc, .type "B", none⟩) pool =
      .ok (some (UInt16.ofNat (pool.size + 1)))
        ((pool.append (.utf8 (.ofString "B"))).append (.classRef (UInt16.ofNat pool.size))) :=
    run_map_iff.mpr ⟨_, run_bind_iff.mpr ⟨_, _, first, second⟩, by rw [Pool.size_append]; rfl⟩
  refine ⟨(pool.append (.utf8 (.ofString "B"))).append (.classRef (UInt16.ofNat pool.size)), ?_⟩
  rw [mirrorRenamed, List.mapM_cons, bind_apply, loaded]
  rfl

-- With the next free index the body stays; behind three hundred other constants it does not.
theorem mirror_moves :
    (∃ written later, encode (rename mirrorTable mirrorInstructions) mirrorPool =
      .ok ⟨written, #[0, 2, 3]⟩ later) ∧
    ∃ later, (∃ obstacle, encode (rename mirrorTable mirrorInstructions)
        (Pool.crowd 300 mirrorPool) = .error (.relayout obstacle) later) ∨
      ∃ moved, encode (rename mirrorTable mirrorInstructions) (Pool.crowd 300 mirrorPool) =
        .ok moved later ∧ moved.offsets ≠ #[0, 2, 3] := by
  have decoded : decode mirrorPool [Opcode.ldc, 2, 0xB1] =
      .ok ⟨mirrorInstructions, #[0, 2, 3]⟩ := by decide +kernel
  have single : ∀ instruction ∈ mirrorInstructions, instruction.outgrows = false := by decide
  have renamed := mirrorInstructions_rename mirrorTable_known
  have size : (Pool.crowd 300 mirrorPool).size = 305 := Pool.crowd_size 300 mirrorPool
  refine ⟨?_, ?_⟩
  · obtain ⟨later, ran⟩ := mirrorRenamed_indices mirrorPool_built.sound (by decide +kernel)
      (by decide +kernel) (by decide)
    rw [← renamed] at ran
    obtain ⟨_, stays, _⟩ := rename_moves decoded (by decide) single mirrorTable ran
    obtain ⟨written, encoded, _⟩ := stays (by decide)
    exact ⟨written, later, encoded⟩
  · have grown : Pool.Grown mirrorPool (Pool.crowd 300 mirrorPool) := Pool.crowd_grown (by decide)
    have new : ∀ constant, constant ∉ mirrorPool.slots → (∀ value, constant ≠ .integer value) →
        constant ∉ (Pool.crowd 300 mirrorPool).slots := by
      intro constant absent other member
      rcases Pool.mem_crowd member with before | ⟨value, same⟩
      · exact absent before
      · exact other value same
    obtain ⟨later, ran⟩ := mirrorRenamed_indices (grown.sound mirrorPool_built.sound)
      (new _ (by decide +kernel) nofun) (by rw [size]; exact new _ (by decide +kernel) nofun)
      (by rw [size]; decide)
    rw [← renamed, size] at ran
    obtain ⟨_, _, moves⟩ := rename_moves decoded (by decide) single mirrorTable ran
    exact ⟨later, moves (by decide)⟩

end Body
end ClassRename
