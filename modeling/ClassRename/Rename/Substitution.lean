import ClassRename.ClassFile.Basic
import ClassRename.Rename.Table

namespace ClassRename

def Instruction.renamed? (table : RenameTable) : Instruction → Option Instruction
  | .field access =>
    (table.renamed? access.owner).map fun owner =>
      .field { access with owner := owner, index := none }
  | .method call =>
    (table.renamed? call.owner).map fun owner =>
      .method { call with owner := owner, index := none }
  | .load ⟨opcode, .type name, _⟩ =>
    (table.renamed? name).map fun name => .load ⟨opcode, .type name, none⟩
  | _ => none

def Instruction.rename (table : RenameTable) (instruction : Instruction) : Instruction :=
  (instruction.renamed? table).getD instruction

namespace Body

def rename (table : RenameTable) (instructions : List Instruction) : List Instruction :=
  instructions.map (Instruction.rename table)

def countOne (stats : Stats) : Instruction → Stats
  | .field _ => { stats with fieldRefs := stats.fieldRefs + 1 }
  | .method _ => { stats with methodRefs := stats.methodRefs + 1 }
  | _ => { stats with typeConstants := stats.typeConstants + 1 }

end Body

-- A class is renamed in place, in one walk that counts the replacements as it makes them.
def Instruction.substitute (table : RenameTable) (instruction : Instruction) :
    StateM Stats Instruction := do
  match instruction.renamed? table with
  | none => return instruction
  | some replacement =>
    modify fun stats => Body.countOne stats replacement
    return replacement

-- What a body counts is added up apart, from nothing.
def Code.substitute (table : RenameTable) (code : Code) : StateM Stats Code := do
  let (instructions, found) := Id.run ((code.instructions.mapM (Instruction.substitute table)).run .zero)
  unless found.isEmpty do
    modify fun stats => stats + { found with methods := 1 }
  return { code with instructions := instructions }

def MethodAttribute.substitute (table : RenameTable) :
    MethodAttribute → StateM Stats MethodAttribute
  | .code body => return .code (← body.substitute table)
  | .other entry => return .other entry

def Method.substitute (table : RenameTable) (method : Method) : StateM Stats Method := do
  let attributes ← method.attributes.mapM (MethodAttribute.substitute table)
  return { method with attributes := attributes }

namespace ClassFile

def substitute (table : RenameTable) (file : ClassFile) : StateM Stats ClassFile := do
  let methods ← file.methods.mapM (Method.substitute table)
  return { file with methods := methods }

def rename (table : RenameTable) (file : ClassFile) : ClassFile × Stats :=
  if table.isEmpty then (file, .zero) else Id.run ((file.substitute table).run .zero)

end ClassFile
end ClassRename
