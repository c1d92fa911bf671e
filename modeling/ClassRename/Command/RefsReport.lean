import ClassRename.Command.Arguments
import ClassRename.Command.Input
import ClassRename.Command.TextTable

namespace ClassRename

structure Reference where
  className : String
  method : String
  position : Nat
  mnemonic : String
  target : String
  renamedTo : Option String
deriving Repr, DecidableEq

-- The counts are those of all references, listed or not.
structure RefsReport where
  classes : Nat
  references : Nat
  renamed : Nat
  entries : List Reference
deriving Repr, DecidableEq

namespace Reference

def ofInstruction (table : RenameTable) (className method : String) (position : Nat)
    (instruction : Instruction) : Option Reference :=
  instruction.referencedClass?.map fun target =>
    ⟨className, method, position, instruction.mnemonic, target, table.renamed? target⟩

def ofClass (table : RenameTable) (className : String) (file : ClassFile) : List Reference :=
  file.bodies.flatMap fun (method, code) =>
    (code.instructions.mapIdx
      (ofInstruction table className (method.name ++ method.descriptor))).filterMap id

end Reference

namespace RefsReport

def ofReferences (classes : Nat) (renamedOnly : Bool) (references : List Reference) :
    RefsReport :=
  let renamed := references.filter (·.renamedTo.isSome)
  ⟨classes, references.length, renamed.length, if renamedOnly then renamed else references⟩

def entryJson (entry : Reference) : Json :=
  .object [("class", .string entry.className), ("method", .string entry.method),
    ("index", .nat entry.position), ("instruction", .string entry.mnemonic),
    ("target", .string entry.target), ("renamed_to", .ofOption entry.renamedTo)]

def json (report : RefsReport) : Json :=
  .object [("classes", .nat report.classes), ("references", .nat report.references),
    ("renamed", .nat report.renamed), ("entries", .array (report.entries.map entryJson))]

def columns : List Column :=
  [⟨"CLASS", .left⟩, ⟨"METHOD", .left⟩, ⟨"#", .right⟩, ⟨"INSN", .left⟩, ⟨"REFERENCES", .left⟩,
    ⟨"RENAMED TO", .left⟩]

def row (entry : Reference) : List String :=
  [entry.className, entry.method, toString entry.position, entry.mnemonic, entry.target,
    entry.renamedTo.getD ""]

def listing (report : RefsReport) : String :=
  if report.entries.isEmpty then ""
  else TextTable.render columns (report.entries.map row) ++ "\n"

def summary (report : RefsReport) : List String :=
  [s!"{report.classes} classes, {report.references} references, " ++
    s!"{report.renamed} would be rewritten"]

end RefsReport

namespace RefsRequest

def references (table : RenameTable) (input : Labelled Bytes) : Command (List Reference) := do
  let file ← Command.within ("failed to parse " ++ input.name)
    (Command.lift (ClassFile.parse input.content))
  let name ← Command.lift (file.pool.encodedClassName file.thisClass)
  return Reference.ofClass table name.lossy file

def loadTable (request : RefsRequest) : Command RenameTable := do
  match request.table with
  | none => return .empty
  | some path => do
    let files := (← get).files
    Command.within ("failed to load rename table: " ++ path)
      (Command.logging (TableSource.loadFile files.read path))

def run (request : RefsRequest) : Command RefsReport := do
  let table ← request.loadTable
  let input ← Input.load request.input
  let found ← input.classes.mapM (references table)
  return .ofReferences input.classes.length request.renamedOnly found.flatten

end RefsRequest
end ClassRename
