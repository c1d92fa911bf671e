import ClassRename.Proofs.Rename.Renaming
import ClassRename.Rename.Session

namespace ClassRename
open Effects

theorem RenameTable.renamed?_ne {table : RenameTable} (found : table.renamed? old = some new) :
    new ≠ old := by
  simpa using (Option.filter_eq_some_iff.mp found).2

namespace Instruction

def isField : Instruction → Bool
  | .field _ => true
  | _ => false

def isMethod : Instruction → Bool
  | .method _ => true
  | _ => false

def isClassLiteral : Instruction → Bool
  | .load constant => constant.value.typeName?.isSome
  | _ => false

-- The old instruction is renamed, and the outcome may be spelled anew.
def RenamedBy (table : RenameTable) (old new : Instruction) : Prop :=
  Respelled (old.rename table) new

theorem Respelled.referencedClass?_eq (respelled : Respelled before after) :
    after.referencedClass? = before.referencedClass? := by
  cases respelled <;> rfl

end Instruction

structure Stats.Counts (stats : Stats) (changed : List Instruction) : Prop where
  fieldRefs : stats.fieldRefs = changed.countP Instruction.isField
  methodRefs : stats.methodRefs = changed.countP Instruction.isMethod
  typeConstants : stats.typeConstants = changed.countP Instruction.isClassLiteral

namespace Stats

theorem Counts.zero : Counts .zero [] := ⟨rfl, rfl, rfl⟩

theorem Counts.add {first second : Stats} (one : Counts first changed) (other : Counts second others) :
    Counts (first + second) (changed ++ others) := by
  obtain ⟨fields, methods, types⟩ := one
  obtain ⟨more, further, last⟩ := other
  refine ⟨?_, ?_, ?_⟩ <;> rw [List.countP_append]
  · rw [← fields, ← more]
    rfl
  · rw [← methods, ← further]
    rfl
  · rw [← types, ← last]
    rfl

theorem isEmpty_iff {stats : Stats} : stats.isEmpty = true ↔
    stats.fieldRefs = 0 ∧ stats.methodRefs = 0 ∧ stats.typeConstants = 0 := by
  simp [isEmpty, substitutions, and_assoc]

theorem Counts.countOne (counts : Counts stats changed)
    (replaced : Instruction.Replaced table old new) :
    Counts (Body.countOne stats new) (changed ++ [old]) := by
  obtain ⟨fields, methods, types⟩ := counts
  cases replaced with
  | field | method | load =>
    refine ⟨?_, ?_, ?_⟩ <;> rw [List.countP_append]
    all_goals simp [Body.countOne, fields, methods, types, Instruction.isField, Instruction.isMethod,
      Instruction.isClassLiteral, Loadable.typeName?]

end Stats

namespace Body

def replaced (table : RenameTable) (instructions : List Instruction) : List Instruction :=
  instructions.filter fun instruction => (instruction.renamed? table).isSome

theorem foldl_counts (table : RenameTable) (instructions : List Instruction)
    (counts : Stats.Counts stats changed) :
    Stats.Counts ((instructions.filterMap (Instruction.renamed? table)).foldl countOne stats)
      (changed ++ replaced table instructions) := by
  induction instructions generalizing stats changed with
  | nil => simpa [replaced] using counts
  | cons instruction rest ih =>
    unfold replaced at ih ⊢
    cases found : instruction.renamed? table with
    | none =>
      rw [List.filterMap_cons_none found, List.filter_cons_of_neg (by simp [found])]
      exact ih counts
    | some renamed =>
      rw [List.filterMap_cons_some found, List.filter_cons_of_pos (by simp [found]), List.foldl_cons,
        List.append_cons]
      exact ih (counts.countOne (Instruction.renamed?_some_iff.mp found))

theorem renameStats_counts (table : RenameTable) (instructions : List Instruction) :
    Stats.Counts (renameStats table instructions) (replaced table instructions) := by
  have counts := foldl_counts table instructions Stats.Counts.zero
  rw [List.nil_append] at counts
  obtain ⟨fields, methods, types⟩ := counts
  unfold renameStats
  dsimp only
  split
  · rename_i empty
    obtain ⟨noFields, noMethods, noTypes⟩ := Stats.isEmpty_iff.mp empty
    exact ⟨noFields.symm.trans fields, noMethods.symm.trans methods, noTypes.symm.trans types⟩
  · exact ⟨fields, methods, types⟩

theorem foldl_bodies_counts (table : RenameTable) (bodies : List Code)
    (counts : Stats.Counts stats changed) :
    Stats.Counts (bodies.foldl (Code.tally table) stats)
      (changed ++ replaced table (bodies.flatMap (·.instructions))) := by
  induction bodies generalizing stats changed with
  | nil => simpa [replaced] using counts
  | cons body rest ih =>
    have next := ih (counts.add (renameStats_counts table body.instructions))
    rw [List.foldl_cons, List.flatMap_cons, replaced, List.filter_append, ← List.append_assoc]
    exact next

end Body

section Correspondence
variable {table : RenameTable} {agree : Instruction → Instruction → Prop}

theorem Code.Alike.of_rename {before : Code} (alike : Alike agree (before.rename table) after) :
    Alike (fun old new => agree (old.rename table) new) before after := by
  obtain ⟨name, maxStack, maxLocals, instructions⟩ := alike
  exact ⟨name, maxStack, maxLocals, List.forall₂_map_left_iff.mp instructions⟩

theorem MethodAttribute.Alike.of_rename {before : MethodAttribute}
    (alike : Alike agree (before.rename table) after) :
    Alike (fun old new => agree (old.rename table) new) before after := by
  cases before with
  | code body =>
    cases alike with
    | code alike => exact .code alike.of_rename
  | other entry =>
    cases alike with
    | other => exact .other

theorem Method.Alike.of_rename {before : Method} (alike : Alike agree (before.rename table) after) :
    Alike (fun old new => agree (old.rename table) new) before after := by
  obtain ⟨flags, name, descriptor, nameIndex, descriptorIndex, attributes⟩ := alike
  exact ⟨flags, name, descriptor, nameIndex, descriptorIndex,
    (List.forall₂_map_left_iff.mp attributes).imp fun _ _ one => one.of_rename⟩

theorem ClassFile.Alike.of_rename {before : ClassFile}
    (alike : Alike agree (before.rename table).1 after) :
    Alike (fun old new => agree (old.rename table) new) before after := by
  rw [rename_eq] at alike
  obtain ⟨minorVersion, majorVersion, pool, flags, thisClass, superClass, interfaces, fields, methods,
    attributes⟩ := alike
  exact ⟨minorVersion, majorVersion, pool, flags, thisClass, superClass, interfaces, fields,
    (List.forall₂_map_left_iff.mp methods).imp fun _ _ one => one.of_rename, attributes⟩

theorem Method.Alike.bodies (alike : Method.Alike agree before after) :
    List.Forall₂ (Code.Alike agree) (before.attributes.filterMap MethodAttribute.code?)
      (after.attributes.filterMap MethodAttribute.code?) := by
  refine List.rel_filterMap ?_ alike.attributes
  intro _ _ one
  cases one with
  | code alike => exact .some alike
  | other => exact .none

end Correspondence

namespace ClassFile

def instructions (file : ClassFile) : List Instruction := file.allBodies.flatMap (·.instructions)

def changed (before after : ClassFile) : List Instruction :=
  ((before.instructions.zip after.instructions).filter fun pair =>
    pair.1.referencedClass? ≠ pair.2.referencedClass?).map Prod.fst

theorem Alike.instructions {agree : Instruction → Instruction → Prop}
    (alike : Alike agree before after) :
    List.Forall₂ agree before.instructions after.instructions := by
  have bodies : List.Forall₂ (Code.Alike agree) before.allBodies after.allBodies :=
    List.rel_flatMap alike.methods fun _ _ one => one.bodies
  exact List.rel_flatMap bodies fun _ _ one => one.instructions

theorem renameStats_counts (table : RenameTable) (file : ClassFile) :
    Stats.Counts (file.renameStats table) (Body.replaced table file.instructions) :=
  Body.foldl_bodies_counts table file.allBodies .zero

end ClassFile

namespace Session

theorem rewriteBytes_renames {session : Session} (parsed : ClassFile.parse data = .ok file)
    (peeked : ClassFile.peekName data = .ok (some name))
    (selected : session.filter.selects name = true)
    (renames : file.rename session.table = (renamed, stats)) (some : stats.isEmpty = false)
    (wrote : ∀ log, renamed.toBytes log = .ok written log) (before : Log) :
    session.rewriteBytes data before =
      .ok (.rewritten written stats)
        (before.push (.rewrote (renamed.name.toOption.getD "<unnamed>") stats)) := by
  have decided : session.rewriteSelected file before = .ok (.rewritten renamed stats)
      (before.push (.rewrote (renamed.name.toOption.getD "<unnamed>") stats)) := by
    rw [rewriteSelected, renames]
    dsimp only
    rw [some, if_neg Bool.false_ne_true]
    rfl
  simp only [rewriteBytes, run_bind_iff, Logging.lift_ok_iff]
  refine ⟨_, _, ⟨peeked, rfl⟩, ?_⟩
  dsimp only
  rw [if_pos selected]
  simp only [run_bind_iff, Logging.lift_ok_iff]
  exact ⟨_, _, ⟨parsed, rfl⟩, _, _, decided, run_bind_iff.mpr ⟨_, _, wrote _, rfl⟩⟩

open ClassFile (mirror mirrorPool mirrorGrown mirrorStored mirrorTable mirror_parsed mirror_written
  mirror_rename)

end Session
end ClassRename
