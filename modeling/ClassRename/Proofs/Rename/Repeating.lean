import ClassRename.Proofs.Rename.Rewriting

namespace ClassRename
open Effects

-- No new name of the table is renamed to yet another one.
def RenameTable.Final (table : RenameTable) : Prop :=
  ∀ old new, table.get? old = some new → table.get? new = none ∨ table.get? new = some new

theorem RenameTable.renamed?_none_iff {table : RenameTable} :
    table.renamed? old = none ↔ ∀ new, table.get? old = some new → new = old := by
  simp [renamed?, Option.filter_eq_none_iff]

theorem RenameTable.Final.renamed? {table : RenameTable} (final : table.Final)
    (found : table.renamed? old = some new) : table.renamed? new = none := by
  obtain ⟨known, _⟩ := Option.filter_eq_some_iff.mp found
  refine renamed?_none_iff.mpr fun further given => ?_
  rcases final old new known with none | same
  · rw [none] at given
    cases given
  · rw [same] at given
    cases given
    rfl

namespace Instruction

theorem renamed?_none_iff {instruction : Instruction} : instruction.renamed? table = none ↔
    ∀ name, instruction.referencedClass? = some name → table.renamed? name = none := by
  cases instruction with
  | load constant =>
    obtain ⟨opcode, value, hint⟩ := constant
    cases value <;> simp [renamed?, referencedClass?, Loadable.typeName?]
  | _ => simp [renamed?, referencedClass?]

theorem renamed?_rename (final : table.Final) (instruction : Instruction) :
    (instruction.rename table).renamed? table = none := by
  rcases rename_cases table instruction with ⟨none, same⟩ | replaced
  · rw [same, none]
  · generalize instruction.rename table = renamed at replaced
    refine renamed?_none_iff.mpr fun name named => ?_
    cases replaced with
    | field found | method found | load found =>
      cases named
      exact final.renamed? found

theorem RenamedBy.renamed? (final : table.Final) (renamed : RenamedBy table old new) :
    new.renamed? table = none := by
  have none := renamed?_none_iff.mp (renamed?_rename final old)
  exact renamed?_none_iff.mpr fun name named =>
    none name (by rwa [← Respelled.referencedClass?_eq renamed])

end Instruction

namespace ClassFile

theorem rename_isEmpty {file : ClassFile}
    (none : ∀ instruction ∈ file.instructions, instruction.renamed? table = none) :
    (file.rename table).2.isEmpty = true := by
  rw [rename_eq]
  obtain ⟨fields, methods, types⟩ := file.renameStats_counts table
  have empty : Body.replaced table file.instructions = [] := by
    refine List.filter_eq_nil_iff.mpr fun instruction member => ?_
    rw [none instruction member]
    exact Bool.false_ne_true
  rw [empty] at fields methods types
  exact Stats.isEmpty_iff.mpr ⟨fields, methods, types⟩

end ClassFile

namespace Session

theorem rewriteBytes_unchanged {session : Session} (parsed : ClassFile.parse data = .ok file)
    (peeked : ClassFile.peekName data = .ok (some name))
    (selected : session.filter.selects name = true)
    (empty : (file.rename session.table).2.isEmpty = true) (log : Log) :
    session.rewriteBytes data log = .ok (.unchanged data) log := by
  have kept : session.rewriteSelected file log =
      .ok (.unchanged (file.rename session.table).1) log := by
    unfold rewriteSelected
    dsimp only
    rw [if_pos empty]
    rfl
  simp only [rewriteBytes, run_bind_iff, Logging.lift_ok_iff]
  refine ⟨_, _, ⟨peeked, rfl⟩, ?_⟩
  dsimp only
  rw [if_pos selected]
  simp only [run_bind_iff, Logging.lift_ok_iff]
  exact ⟨_, _, ⟨parsed, rfl⟩, _, _, kept, rfl⟩

open ClassFile (mirror mirrorPool mirrorGrown mirrorStored mirror_parsed mirror_written
  mirror_rename_of)

end Session
end ClassRename
