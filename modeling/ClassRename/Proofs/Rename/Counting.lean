import ClassRename.Proofs.Rename.Selecting

namespace ClassRename
open Effects

theorem Instruction.renamed?_isSome (table : RenameTable) (instruction : Instruction) :
    (instruction.renamed? table).isSome =
      (instruction.referencedClass?.bind table.renamed?).isSome := by
  cases found : instruction.renamed? table with
  | some renamed =>
    cases renamed?_some_iff.mp found with
    | field known | method known | load known =>
      simp only [referencedClass?, Loadable.typeName?, Option.bind_some, known, Option.isSome_some]
  | none =>
    have none := renamed?_none_iff.mp found
    cases named : instruction.referencedClass? with
    | none => rfl
    | some name => rw [Option.bind_some, none name named, Option.isSome_none, Option.isSome_none]

namespace Body

def replacements (table : RenameTable) (instructions : List Instruction) : Nat :=
  instructions.countP fun instruction => (instruction.renamed? table).isSome

theorem replacements_append (table : RenameTable) (first second : List Instruction) :
    replacements table (first ++ second) = replacements table first + replacements table second :=
  List.countP_append

end Body

namespace Stats

theorem substitutions_add (first second : Stats) :
    (first.add second).substitutions = first.substitutions + second.substitutions := by
  simp only [add, substitutions]
  omega

theorem Counts.substitutions (counts : Counts stats changed) :
    stats.substitutions = changed.countP (·.referencedClass?.isSome) := by
  obtain ⟨fields, methods, types⟩ := counts
  rw [Stats.substitutions, fields, methods, types]
  clear fields methods types
  induction changed with
  | nil => rfl
  | cons instruction rest ih =>
    have kinds : (if instruction.isField then 1 else 0) + (if instruction.isMethod then 1 else 0) +
        (if instruction.isClassLiteral then 1 else 0) =
          if instruction.referencedClass?.isSome then 1 else 0 := by
      cases instruction with
      | load => exact Nat.zero_add _
      | _ => rfl
    simp only [List.countP_cons]
    omega

end Stats

theorem ClassFile.rename_substitutions (table : RenameTable) (file : ClassFile) :
    (file.rename table).2.substitutions = Body.replacements table file.instructions := by
  rw [rename_eq, (file.renameStats_counts table).substitutions, Body.replaced, List.countP_filter,
    Body.replacements]
  apply List.countP_congr
  intro instruction _
  rw [Instruction.renamed?_isSome]
  cases instruction.referencedClass? <;> simp

-- What a pass without a filter renames. A class without a readable name is skipped whatever its
-- bodies say.
def ClassFile.renamedIn (table : RenameTable) (file : ClassFile) : Nat :=
  if file.name.isOk then Body.replacements table file.instructions else 0

namespace Session

theorem rewriteBytes_substitutions {session : Session} (all : session.filter = .all)
    (parsed : ClassFile.parse data = .ok file)
    (ran : session.rewriteBytes data before = .ok outcome after) :
    outcome.stats.substitutions = file.renamedIn session.table := by
  unfold ClassFile.renamedIn
  have peeks := ClassFile.peeks_of_parse parsed
  cases named : file.name with
  | error error =>
    have unnamed : ClassFile.peekName data = .ok none := by
      apply peeks.unnamed.mpr
      intro name same
      rw [named] at same
      cases same
    have skips : session.rewriteBytes data before =
        .ok (.skipped data) (before.push .undecodableName) :=
      rewriteBytes_skipped_iff.mpr ⟨rfl, none, unnamed, .unnamed⟩
    rw [ran] at skips
    cases skips
    rfl
  | ok name =>
    have selected : session.filter.selects name = true := by
      rw [all]
      rfl
    have counted := ClassFile.rename_substitutions session.table file
    rw [rewriteBytes_selected parsed named selected, rewriteSelected_apply] at ran
    rw [if_pos (by rfl), ← counted]
    cases empty : (file.rename session.table).2.isEmpty with
    | true =>
      rw [empty] at ran
      cases ran
      exact (of_decide_eq_true empty).symm
    | false =>
      rw [empty, if_neg Bool.false_ne_true] at ran
      dsimp only at ran
      split at ran
      · cases ran
        rfl
      · cases ran

theorem rewriteBatch_each {session : Session} (ran : session.rewriteBatch inputs before = .ok outputs after) :
    List.Forall₂ (fun input output => output.name = input.name ∧
      ∃ before after, session.rewriteBytes input.content before = .ok output.content after)
      inputs outputs := by
  apply mapM_each _ ran
  intro input before output after ran
  unfold rewriteLabelled at ran
  cases wrote : session.rewriteBytes input.content before with
  | ok outcome middle =>
    rw [wrote] at ran
    cases ran
    exact ⟨rfl, before, _, wrote⟩
  | error error middle =>
    rw [wrote] at ran
    cases ran

end Session
end ClassRename
