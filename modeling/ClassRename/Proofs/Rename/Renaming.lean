import ClassRename.Proofs.ClassFile.Rereading
import ClassRename.Proofs.Rename.Mapping

namespace ClassRename
open Effects

namespace Instruction

-- What a replacement does: the class changes and the old index is forgotten.
inductive Replaced (table : RenameTable) : Instruction → Instruction → Prop where
  | field {access : FieldAccess} (found : table.renamed? access.owner = some owner) :
      Replaced table (.field access) (.field { access with owner := owner, index := none })
  | method {call : Invocation} (found : table.renamed? call.owner = some owner) :
      Replaced table (.method call) (.method { call with owner := owner, index := none })
  | load {opcode : UInt8} (found : table.renamed? old = some new) :
      Replaced table (.load ⟨opcode, .type old, hint⟩) (.load ⟨opcode, .type new, none⟩)

theorem renamed?_some_iff {instruction : Instruction} :
    instruction.renamed? table = some renamed ↔ Replaced table instruction renamed := by
  constructor
  · intro found
    unfold renamed? at found
    split at found
    · obtain ⟨owner, known, rfl⟩ := Option.map_eq_some_iff.mp found
      exact .field known
    · obtain ⟨owner, known, rfl⟩ := Option.map_eq_some_iff.mp found
      exact .method known
    · obtain ⟨owner, known, rfl⟩ := Option.map_eq_some_iff.mp found
      exact .load known
    · cases found
  · intro replaced
    cases replaced with
    | field found | method found | load found => simp [renamed?, found]

theorem rename_cases (table : RenameTable) (instruction : Instruction) :
    (instruction.renamed? table = none ∧ instruction.rename table = instruction) ∨
      Replaced table instruction (instruction.rename table) := by
  unfold rename
  cases found : instruction.renamed? table with
  | none => exact .inl ⟨rfl, rfl⟩
  | some renamed => exact .inr (renamed?_some_iff.mp found)

theorem WellFormed.rename (wellFormed : WellFormed pool instruction) (table : RenameTable) :
    WellFormed pool (instruction.rename table) := by
  rcases rename_cases table instruction with ⟨_, same⟩ | replaced
  · rw [same]
    exact wellFormed
  · generalize instruction.rename table = renamed at replaced
    cases replaced with
    | field =>
      cases wellFormed with
      | field family => exact .field family
    | method =>
      cases wellFormed with
      | method family => exact .method family
    | load =>
      cases wellFormed with
      | load family => exact .load family fun index same => by cases same

theorem counted_rename {instruction : Instruction} (table : RenameTable)
    (counted : instruction.counted = instruction) :
    (instruction.rename table).counted = instruction.rename table := by
  rcases rename_cases table instruction with ⟨_, same⟩ | replaced
  · rw [same]
    exact counted
  · generalize instruction.rename table = renamed at replaced
    cases replaced with
    | field | load => rfl
    | @method owner call =>
      injection counted with kept
      have count := congrArg Invocation.count kept
      simp only [Instruction.counted, Invocation.counted, Instruction.method.injEq] at count ⊢
      rw [count]

end Instruction

theorem Code.WellFormed.rename {code : Code} (wellFormed : WellFormed pool code)
    (table : RenameTable) : WellFormed pool (code.rename table) := by
  obtain ⟨named, nonempty, instructions, counted, handlers, attributes⟩ := wellFormed
  refine ⟨named, by simpa [Code.rename, Body.rename] using nonempty, ?_, ?_, handlers, attributes⟩
  · intro instruction member
    obtain ⟨old, present, rfl⟩ := List.mem_map.mp member
    exact (instructions old present).rename table
  · intro instruction member
    obtain ⟨old, present, rfl⟩ := List.mem_map.mp member
    exact Instruction.counted_rename table (counted old present)

theorem MethodAttribute.WellFormed.rename (wellFormed : WellFormed pool item) (table : RenameTable) :
    WellFormed pool (item.rename table) := by
  cases wellFormed with
  | code body => exact .code (body.rename table)
  | other named different => exact .other named different

theorem Method.WellFormed.rename {method : Method} (wellFormed : WellFormed pool method)
    (table : RenameTable) : WellFormed pool (method.rename table) := by
  obtain ⟨name, descriptor, counted, attributes⟩ := wellFormed
  refine ⟨name, descriptor, by simpa [Method.rename] using counted, fun item member => ?_⟩
  obtain ⟨old, present, rfl⟩ := List.mem_map.mp member
  exact (attributes old present).rename table

namespace ClassFile

theorem WellFormed.rename {file : ClassFile} (wellFormed : file.WellFormed) (table : RenameTable) :
    (file.rename table).1.WellFormed := by
  rw [rename_eq]
  obtain ⟨pool, named, interfaces, fields, counted, methods, attributes⟩ := wellFormed
  refine ⟨pool, named, interfaces, fields, by simpa using counted, fun method member => ?_, attributes⟩
  obtain ⟨old, present, rfl⟩ := List.mem_map.mp member
  exact (methods old present).rename table

def mirrorPool : Pool :=
  (((Pool.empty.append (.utf8 (.ofString "A"))).append (.classRef 1)).append
    (.utf8 (.ofString "Code"))).append (.utf8 (.ofString "()V"))

def mirror (load : ConstantLoad) : ClassFile :=
  ⟨0, defaultVersion, mirrorPool, defaultFlags, 2, 0, [], [],
    [⟨1, "A", "()V", [.code ⟨some 3, 1, 0, [.load load, .simple 0xB1], [], [], some #[0, 2, 3]⟩],
      some 1, some 4⟩], []⟩

def mirrorCode (index : UInt8) : StoredCode := ⟨1, 0, [Opcode.ldc, index, 0xB1], [], []⟩

def mirrorStored (pool : Pool) (index : UInt8) : StoredClass :=
  (mirror ⟨Opcode.ldc, .type "A", some 2⟩).storedWith pool
    [⟨1, 1, 4, [⟨3, (mirrorCode index).toBytes⟩]⟩]

theorem mirrorPool_built : mirrorPool.Built := by
  refine .add (.add (.add (.add .refl ?_ ?_) ?_ ?_) ?_ ?_) ?_ ?_
  case refine_3 => exact trivial
  all_goals exact Nat.lt_of_sub_eq_succ rfl

theorem mirror_parsed :
    parse (mirrorStored mirrorPool 2).toBytes = .ok (mirror ⟨Opcode.ldc, .type "A", some 2⟩) := by
  have fits : (mirrorStored mirrorPool 2).Fits := by
    refine ⟨mirrorPool_built, by decide, ⟨by decide, ?_⟩, ⟨by decide, ?_⟩, by decide, ?_⟩
    · exact List.forall_mem_nil _
    · exact List.forall_mem_singleton.mpr ⟨by decide, by decide⟩
    · exact List.forall_mem_nil _
  have body : MethodAttribute.Resolved mirrorPool ⟨3, (mirrorCode 2).toBytes⟩
      (.code ((mirrorCode 2).withBody 3
        ⟨[.load ⟨Opcode.ldc, .type "A", some 2⟩, .simple 0xB1], #[0, 2, 3]⟩)) := .code rfl rfl rfl
  refine parse_ok_iff.mpr ⟨_, StoredClass.parse_ok_iff.mpr ⟨rfl, fits⟩, ?_⟩
  refine ⟨rfl, rfl, rfl, rfl, rfl, rfl, rfl, rfl, rfl, ⟨_, rfl⟩, .cons ?_ .nil⟩
  exact ⟨rfl, rfl, rfl, ⟨_, rfl, rfl⟩, ⟨_, rfl, rfl⟩, .cons body .nil⟩

def mirrorTable : RenameTable := .ofList [("A", "B")]

def mirrorInstructions : List Instruction := [.load ⟨Opcode.ldc, .type "A", some 2⟩, .simple 0xB1]

def mirrorRenamed : List Instruction := [.load ⟨Opcode.ldc, .type "B", none⟩, .simple 0xB1]

section MirrorRename
variable {table : RenameTable} (known : table.renamed? "A" = some "B")
include known

theorem mirror_renamed? : Instruction.renamed? table (.load ⟨Opcode.ldc, .type "A", some 2⟩) =
    some (.load ⟨Opcode.ldc, .type "B", none⟩) := by
  rw [Instruction.renamed?, known]
  rfl

theorem mirrorInstructions_rename : Body.rename table mirrorInstructions = mirrorRenamed := by
  have kept : Instruction.renamed? table (.simple 0xB1) = none := rfl
  simp only [mirrorInstructions, mirrorRenamed, Body.rename, List.map_cons, List.map_nil,
    Instruction.rename, mirror_renamed? known, kept, Option.getD_some, Option.getD_none]

theorem mirrorInstructions_renameStats :
    Body.renameStats table mirrorInstructions = ⟨1, 0, 0, 1⟩ := by
  have kept : Instruction.renamed? table (.simple 0xB1) = none := rfl
  simp only [mirrorInstructions, Body.renameStats, List.filterMap_cons, List.filterMap_nil,
    mirror_renamed? known, kept]
  rfl

theorem mirror_rename_of :
    (mirror ⟨Opcode.ldc, .type "A", some 2⟩).rename table =
      (mirror ⟨Opcode.ldc, .type "B", none⟩, ⟨1, 0, 0, 1⟩) := by
  have body := mirrorInstructions_rename known
  have counts := mirrorInstructions_renameStats known
  unfold mirrorInstructions mirrorRenamed at body
  rw [rename_eq]
  refine Prod.ext ?_ ?_
  · simp only [mirror, List.map_cons, List.map_nil, Method.rename, MethodAttribute.rename,
      Code.rename, body]
  · exact congrArg (Stats.add .zero) counts

end MirrorRename

theorem mirrorTable_known : mirrorTable.renamed? "A" = some "B" := by
  simp [mirrorTable, RenameTable.renamed?, RenameTable.get?, RenameTable.ofList]

theorem mirror_rename :
    (mirror ⟨Opcode.ldc, .type "A", some 2⟩).rename mirrorTable =
      (mirror ⟨Opcode.ldc, .type "B", none⟩, ⟨1, 0, 0, 1⟩) :=
  mirror_rename_of mirrorTable_known

def mirrorGrown : Pool := (mirrorPool.append (.utf8 (.ofString "B"))).append (.classRef 5)

theorem mirror_encoded : Body.encode [.load ⟨Opcode.ldc, .type "B", none⟩, .simple 0xB1] mirrorPool =
    .ok ⟨(mirrorCode 6).code, #[0, 2, 3]⟩ mirrorGrown := by
  have sound := mirrorPool_built.sound
  have text : Pool.internText "B" mirrorPool =
      .ok 5 (mirrorPool.append (.utf8 (.ofString "B"))) :=
    Pool.intern_fresh sound (by decide +kernel) (by decide)
  have added : Pool.Sound (mirrorPool.append (.utf8 (.ofString "B"))) :=
    Pool.append_sound sound (by decide)
  have name : Pool.intern (.classRef 5) (mirrorPool.append (.utf8 (.ofString "B"))) =
      .ok 6 mirrorGrown :=
    Pool.intern_fresh added (by decide +kernel) (by decide)
  have load : Body.resolve (.load ⟨Opcode.ldc, .type "B", none⟩) mirrorPool =
      .ok (.fixed [Opcode.ldc, 6]) mirrorGrown :=
    run_bind_iff.mpr ⟨6, _, run_bind_iff.mpr ⟨5, _, text, name⟩, rfl⟩
  refine Body.encode_ok_iff.mpr ⟨[.fixed [Opcode.ldc, 6], .fixed [0xB1]], ?_, by decide +kernel⟩
  rw [List.mapM_cons, bind_apply, load]
  rfl

theorem mirrorBody_written (log : Log) :
    Code.toBytes ⟨some 3, 1, 0, mirrorRenamed, [], [], some #[0, 2, 3]⟩ ⟨mirrorPool, log⟩ =
      .ok (Attribute.toBytes ⟨3, (mirrorCode 6).toBytes⟩) ⟨mirrorGrown, log⟩ := by
  simp only [Code.toBytes, run_bind_iff, Writing.intern_ok_iff]
  exact ⟨3, _, ⟨mirrorPool, rfl, rfl⟩, _, _, ⟨mirrorGrown, mirror_encoded, rfl⟩, rfl⟩

theorem mirror_written (log : Log) :
    (mirror ⟨Opcode.ldc, .type "B", none⟩).toBytes log =
      .ok (mirrorStored mirrorGrown 6).toBytes log := by
  have body := mirrorBody_written log
  unfold mirrorRenamed at body
  have method : Method.toBytes ⟨1, "A", "()V", [.code ⟨some 3, 1, 0,
      [.load ⟨Opcode.ldc, .type "B", none⟩, .simple 0xB1], [], [], some #[0, 2, 3]⟩], some 1, some 4⟩
        ⟨mirrorPool, log⟩ =
          .ok (Field.toBytes ⟨1, 1, 4, [⟨3, (mirrorCode 6).toBytes⟩]⟩) ⟨mirrorGrown, log⟩ := by
    simp only [Method.toBytes, run_bind_iff, Writing.intern_ok_iff]
    refine ⟨1, _, ⟨mirrorPool, rfl, rfl⟩, 4, _, ⟨mirrorPool, rfl, rfl⟩,
      [Attribute.toBytes ⟨3, (mirrorCode 6).toBytes⟩], ⟨mirrorGrown, log⟩, ?_, rfl⟩
    rw [List.mapM_cons, bind_apply, MethodAttribute.toBytes, body]
    rfl
  refine toBytes_of_methods ?_
  rw [mirror, List.mapM_cons, bind_apply, method]
  rfl

end ClassFile
end ClassRename
