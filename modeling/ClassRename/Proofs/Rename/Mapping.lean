import ClassRename.Proofs.Effects
import ClassRename.Rename.Substitution

namespace ClassRename
open Effects

theorem Instruction.substitute_run (table : RenameTable) (instruction : Instruction) (stats : Stats) :
    (instruction.substitute table).run stats = (instruction.rename table,
      (instruction.renamed? table).toList.foldl Body.countOne stats) := by
  unfold substitute rename
  cases instruction.renamed? table <;> rfl

namespace Body

def renameStats (table : RenameTable) (instructions : List Instruction) : Stats :=
  let stats := (instructions.filterMap (Instruction.renamed? table)).foldl countOne .zero
  if stats.isEmpty then .zero else { stats with methods := 1 }

theorem mapM_substitute (table : RenameTable) (instructions : List Instruction) (stats : Stats) :
    (instructions.mapM (Instruction.substitute table)).run stats = (rename table instructions,
      (instructions.filterMap (Instruction.renamed? table)).foldl countOne stats) := by
  rw [mapM_fold (Instruction.substitute_run table), List.filterMap_eq_flatMap_toList]
  rfl

end Body

namespace Code

def rename (table : RenameTable) (code : Code) : Code :=
  { code with instructions := Body.rename table code.instructions }

def tally (table : RenameTable) (stats : Stats) (code : Code) : Stats :=
  stats + Body.renameStats table code.instructions

theorem substitute_run (table : RenameTable) (code : Code) (stats : Stats) :
    (code.substitute table).run stats = (code.rename table, tally table stats code) := by
  unfold substitute tally Body.renameStats
  rw [Body.mapM_substitute]
  dsimp only [Id.run]
  split
  · rfl
  · rfl

end Code

namespace MethodAttribute

def rename (table : RenameTable) : MethodAttribute → MethodAttribute
  | .code body => .code (body.rename table)
  | .other entry => .other entry

theorem substitute_run (table : RenameTable) (item : MethodAttribute) (stats : Stats) :
    (item.substitute table).run stats =
      (item.rename table, item.code?.toList.foldl (Code.tally table) stats) := by
  cases item with
  | code body =>
    have inside := body.substitute_run table stats
    rw [substitute, StateT.run_bind, inside]
    rfl
  | other entry => rfl

end MethodAttribute

namespace Method

def rename (table : RenameTable) (method : Method) : Method :=
  { method with attributes := method.attributes.map (MethodAttribute.rename table) }

theorem substitute_run (table : RenameTable) (method : Method) (stats : Stats) :
    (method.substitute table).run stats = (method.rename table,
      (method.attributes.filterMap MethodAttribute.code?).foldl (Code.tally table) stats) := by
  rw [substitute, StateT.run_bind, mapM_fold (MethodAttribute.substitute_run table),
    List.filterMap_eq_flatMap_toList]
  rfl

end Method

namespace ClassFile

def renameStats (table : RenameTable) (file : ClassFile) : Stats :=
  file.allBodies.foldl (Code.tally table) .zero

theorem substitute_run (table : RenameTable) (file : ClassFile) :
    (file.substitute table).run .zero =
      ({ file with methods := file.methods.map (Method.rename table) }, file.renameStats table) := by
  rw [substitute, StateT.run_bind, mapM_fold (Method.substitute_run table)]
  rfl

end ClassFile

section Empty
variable {table : RenameTable} (empty : table.isEmpty = true)
include empty

theorem Instruction.renamed?_of_isEmpty (instruction : Instruction) :
    instruction.renamed? table = none := by
  have absent (old : String) : table.renamed? old = none := by
    have unknown : table.get? old = none := Std.HashMap.getElem?_of_isEmpty empty
    rw [RenameTable.renamed?, unknown]
    rfl
  unfold renamed?
  split
  · rw [absent]
    rfl
  · rw [absent]
    rfl
  · rw [absent]
    rfl
  · rfl

theorem Body.rename_of_isEmpty (instructions : List Instruction) :
    rename table instructions = instructions := by
  refine map_self fun instruction _ => ?_
  rw [Instruction.rename, Instruction.renamed?_of_isEmpty empty]
  rfl

theorem Method.rename_of_isEmpty (method : Method) : method.rename table = method := by
  have attributes : method.attributes.map (MethodAttribute.rename table) = method.attributes := by
    refine map_self fun item _ => ?_
    cases item with
    | code body => rw [MethodAttribute.rename, Code.rename, Body.rename_of_isEmpty empty]
    | other entry => rfl
  rw [rename, attributes]

theorem Code.tally_of_isEmpty (stats : Stats) (code : Code) : tally table stats code = stats := by
  have none : code.instructions.filterMap (Instruction.renamed? table) = [] :=
    List.filterMap_eq_nil_iff.mpr fun instruction _ => Instruction.renamed?_of_isEmpty empty instruction
  rw [tally, Body.renameStats, none]
  rfl

theorem ClassFile.renameStats_of_isEmpty (file : ClassFile) : file.renameStats table = .zero := by
  have step : Code.tally table = fun stats _ => stats := by
    funext stats code
    exact Code.tally_of_isEmpty empty stats code
  rw [renameStats, step, List.foldl_fixed]

end Empty

-- The walk gives every body what a rename of its list gives, and counts what the bodies come to one
-- by one. It would do so with an empty table as well, so the early exit decides nothing.
theorem ClassFile.rename_eq (table : RenameTable) (file : ClassFile) :
    file.rename table =
      ({ file with methods := file.methods.map (Method.rename table) }, file.renameStats table) := by
  rw [rename, substitute_run]
  split
  · rename_i empty
    have methods : file.methods.map (Method.rename table) = file.methods :=
      map_self fun method _ => Method.rename_of_isEmpty empty method
    rw [methods, renameStats_of_isEmpty empty]
  · rfl

end ClassRename
