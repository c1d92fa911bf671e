import ClassRename.ClassFile.Edit
import ClassRename.Proofs.ClassFile.Untouched
import ClassRename.Proofs.Rename.Counting

namespace ClassRename
open Effects

theorem Instruction.rename_ne_iff (table : RenameTable) (instruction : Instruction) :
    instruction ≠ instruction.rename table ↔ (instruction.renamed? table).isSome = true := by
  rcases rename_cases table instruction with ⟨none, same⟩ | replaced
  · rw [same, none]
    simp
  · rw [renamed?_some_iff.mpr replaced]
    simp only [Option.isSome_some, iff_true]
    intro same
    have kept := congrArg Instruction.referencedClass? same
    generalize instruction.rename table = renamed at replaced kept
    cases replaced with
    | field found | method found | load found =>
      injection kept with kept
      exact RenameTable.renamed?_ne found kept.symm

namespace Body

-- The instructions that are others in the second list, place by place.
def differences (before after : List Instruction) : List Instruction :=
  ((before.zip after).filter fun pair => pair.1 ≠ pair.2).map Prod.fst

theorem differences_rename (table : RenameTable) (instructions : List Instruction) :
    differences instructions (rename table instructions) = replaced table instructions := by
  unfold differences rename replaced
  rw [← List.map_prod_left_eq_zip, List.filter_map, List.map_map]
  refine (List.map_id _).trans (List.filter_congr fun instruction _ => ?_)
  exact (Bool.decide_congr (Instruction.rename_ne_iff table instruction)).trans (Bool.decide_coe _)

theorem differences_self (instructions : List Instruction) :
    differences instructions instructions = [] := by
  have none : (instructions.zip instructions).filter (fun pair => pair.1 ≠ pair.2) = [] := by
    rw [List.filter_eq_nil_iff]
    intro pair member
    simpa using eq_of_mem_zip_self member
  rw [differences, none, List.map_nil]

theorem rename_of_replaced_nil (none : replaced table instructions = []) :
    rename table instructions = instructions := by
  refine map_self fun instruction member => ?_
  by_contra differs
  have renamed := (Instruction.rename_ne_iff table instruction).mp (Ne.symm differs)
  have listed : instruction ∈ replaced table instructions :=
    List.mem_filter.mpr ⟨member, renamed⟩
  rw [none] at listed
  cases listed

theorem isEmpty_iff (counts : Stats.Counts stats (replaced table instructions)) :
    stats.isEmpty = true ↔ replaced table instructions = [] := by
  have each : ∀ instruction ∈ replaced table instructions,
      instruction.referencedClass?.isSome = true := by
    intro instruction member
    have renamed := (List.mem_filter.mp member).2
    rw [Instruction.renamed?_isSome] at renamed
    exact Option.isSome_of_isSome_bind renamed
  rw [Stats.isEmpty, decide_eq_true_iff, counts.substitutions, List.countP_eq_length.mpr each,
    List.length_eq_zero_iff]

theorem renameStats_methods (table : RenameTable) (instructions : List Instruction) :
    (renameStats table instructions).methods =
      if replaced table instructions ≠ [] then 1 else 0 := by
  have counts := foldl_counts table instructions Stats.Counts.zero
  unfold renameStats
  dsimp only
  split
  · rename_i empty
    rw [if_neg (not_not.mpr ((isEmpty_iff counts).mp empty))]
    rfl
  · rename_i some
    rw [if_pos fun none => some ((isEmpty_iff counts).mpr none)]

-- A body is counted once, however many replacements it has.
theorem foldl_bodies_methods (table : RenameTable) (bodies : List Code) (stats : Stats) :
    (bodies.foldl (Code.tally table) stats).methods =
      stats.methods + bodies.countP fun code => replaced table code.instructions ≠ [] := by
  induction bodies generalizing stats with
  | nil => rfl
  | cons body rest ih =>
    have one : (Code.tally table stats body).methods =
        stats.methods + (renameStats table body.instructions).methods := rfl
    rw [List.foldl_cons, ih, one, renameStats_methods, List.countP_cons, Nat.add_assoc]
    simp only [decide_eq_true_eq, Nat.add_comm]

end Body

namespace Method

def mapBodies (edit : Code → Code) (method : Method) : Method :=
  { method with attributes := method.attributes.map (MethodAttribute.modifyCode edit) }

theorem mapBodies_self {edit : Code → Code} {method : Method}
    (same : ∀ code, .code code ∈ method.attributes → edit code = code) :
    method.mapBodies edit = method := by
  have attributes : method.attributes.map (MethodAttribute.modifyCode edit) =
      method.attributes := by
    refine map_self fun item listed => ?_
    cases item with
    | code body => exact congrArg MethodAttribute.code (same body listed)
    | other entry => rfl
  rw [mapBodies, attributes]

theorem rename_eq (table : RenameTable) :
    rename table = mapBodies (·.modifyInstructions (Body.rename table)) := by
  funext method
  have one : MethodAttribute.rename table =
      MethodAttribute.modifyCode (·.modifyInstructions (Body.rename table)) := by
    funext item
    cases item <;> rfl
  rw [rename, mapBodies, one]

end Method

namespace ClassFile

def mapBodies (edit : Code → Code) (file : ClassFile) : ClassFile :=
  { file with methods := file.methods.map (Method.mapBodies edit) }

theorem allBodies_mapBodies (edit : Code → Code) (file : ClassFile) :
    (file.mapBodies edit).allBodies = file.allBodies.map edit := by
  have one (item : MethodAttribute) : (item.modifyCode edit).code? = item.code?.map edit := by
    cases item <;> rfl
  simp only [allBodies, mapBodies, Method.mapBodies, List.flatMap_map, List.map_flatMap,
    List.filterMap_map, List.map_filterMap, Function.comp_def, one]

theorem mapBodies_self {edit : Code → Code} {file : ClassFile}
    (same : ∀ code ∈ file.allBodies, edit code = code) : file.mapBodies edit = file := by
  have methods : file.methods.map (Method.mapBodies edit) = file.methods := by
    refine map_self fun method defined => ?_
    exact Method.mapBodies_self fun code listed =>
      same code (mem_allBodies_iff.mpr ⟨method, defined, .code code, listed, rfl⟩)
  rw [mapBodies, methods]

def differences (before after : ClassFile) : List Instruction :=
  (before.allBodies.zip after.allBodies).flatMap fun pair =>
    Body.differences pair.1.instructions pair.2.instructions

def changedBodies (before after : ClassFile) : Nat :=
  (before.allBodies.zip after.allBodies).countP fun pair =>
    Body.differences pair.1.instructions pair.2.instructions ≠ []

theorem differences_self (file : ClassFile) : file.differences file = [] := by
  rw [differences, List.flatMap_eq_nil_iff]
  intro pair member
  rw [eq_of_mem_zip_self member]
  exact Body.differences_self _

section Rename
variable (table : RenameTable) (file : ClassFile)

def renamedBodies : ClassFile := file.mapBodies (·.modifyInstructions (Body.rename table))

theorem allBodies_renamed : file.allBodies.zip (file.renamedBodies table).allBodies =
    file.allBodies.map fun code => (code, code.rename table) := by
  rw [renamedBodies, allBodies_mapBodies, List.map_prod_left_eq_zip]
  rfl

theorem differences_renamed :
    file.differences (file.renamedBodies table) = Body.replaced table file.instructions := by
  rw [differences, allBodies_renamed, List.flatMap_map, instructions, Body.replaced,
    List.filter_flatMap]
  exact List.flatMap_congr fun code _ => Body.differences_rename table code.instructions

theorem changedBodies_renamed : file.changedBodies (file.renamedBodies table) =
    file.allBodies.countP fun code => Body.replaced table code.instructions ≠ [] := by
  rw [changedBodies, allBodies_renamed, List.countP_map]
  refine List.countP_congr fun code _ => ?_
  rw [Function.comp, Code.rename, Body.differences_rename]

theorem renamedBodies_self (none : Body.replaced table file.instructions = []) :
    file.renamedBodies table = file := by
  refine mapBodies_self fun code member => ?_
  have still : Body.rename table code.instructions = code.instructions := by
    refine Body.rename_of_replaced_nil ?_
    rw [instructions, Body.replaced, List.filter_flatMap, List.flatMap_eq_nil_iff] at none
    exact none code member
  rw [Code.modifyInstructions, still]

theorem rename_fst : (file.rename table).1 = file.renamedBodies table := by
  rw [rename_eq, renamedBodies, mapBodies, Method.rename_eq]

theorem rename_snd : (file.rename table).2 = file.renameStats table := by
  rw [rename_eq]

end Rename

-- What a rename gives is the class with its instruction lists renamed. It counts the instructions of
-- each kind that are others now and the bodies that have one, and it counts nothing exactly if the
-- class is what it was.
theorem rename_exact (table : RenameTable) (file : ClassFile) :
    (file.rename table).1 = file.mapBodies (·.modifyInstructions (Body.rename table)) ∧
    Stats.Counts (file.rename table).2 (file.differences (file.rename table).1) ∧
    (file.rename table).2.methods = file.changedBodies (file.rename table).1 ∧
    ((file.rename table).2.isEmpty = true ↔ file.differences (file.rename table).1 = []) ∧
    ((file.rename table).2.isEmpty = true ↔ (file.rename table).1 = file) := by
  rw [rename_fst, rename_snd, differences_renamed, changedBodies_renamed]
  have counts := file.renameStats_counts table
  have methods := Body.foldl_bodies_methods table file.allBodies .zero
  refine ⟨rfl, counts, methods.trans (Nat.zero_add _), Body.isEmpty_iff counts, ?_⟩
  rw [Body.isEmpty_iff counts]
  constructor
  · exact renamedBodies_self table file
  · intro same
    rw [← differences_renamed, same]
    exact differences_self file

end ClassFile
end ClassRename
