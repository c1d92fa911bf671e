import ClassRename.Rename.Filter
import ClassRename.Rename.Source
import ClassRename.Rename.Substitution

namespace ClassRename

inductive Outcome (α : Type) where
  | skipped (given : α)
  | unchanged (given : α)
  | rewritten (result : α) (stats : Stats)
deriving Repr, DecidableEq

namespace Outcome

def result : Outcome α → α
  | .skipped given | .unchanged given => given
  | .rewritten result _ => result

def stats : Outcome α → Stats
  | .rewritten _ stats => stats
  | _ => .zero

def isRewritten : Outcome α → Bool
  | .rewritten .. => true
  | _ => false

end Outcome

structure Labelled (α : Type) where
  name : String
  content : α

structure Session where
  table : RenameTable
  filter : ClassFilter
  parallel : Bool

namespace Session

def ofTable (table : RenameTable) (filter : ClassFilter) : Session := ⟨table, filter, true⟩

def openOn (read : FileReader) (source : TableSource) (filter : ClassFilter) :
    Logging Session := do
  let table ← source.resolve read
  Logging.record (.resolved table.size source.describe)
  return ofTable table filter

def selects (session : Session) (file : ClassFile) : Logging Bool :=
  match file.name with
  | .ok name => return session.filter.selects name
  | .error error => do
    Logging.record (.unresolvableName error)
    return false

def rewriteSelected (session : Session) (file : ClassFile) : Logging (Outcome ClassFile) := do
  let (renamed, stats) := file.rename session.table
  if stats.isEmpty then return .unchanged renamed
  Logging.record (.rewrote (renamed.name.toOption.getD "<unnamed>") stats)
  return .rewritten renamed stats

def rewriteClass (session : Session) (file : ClassFile) : Logging (Outcome ClassFile) := do
  if ← session.selects file then session.rewriteSelected file else return .skipped file

-- The filter sees the name before any method is read, so a skipped class needs no more than
-- a readable beginning. Only a rewritten class is encoded again.
def rewriteBytes (session : Session) (bytes : Bytes) : Logging (Outcome Bytes) := do
  match ← Logging.lift (ClassFile.peekName bytes) with
  | none => do
    Logging.record .undecodableName
    return .skipped bytes
  | some name =>
    if session.filter.selects name then
      let file ← Logging.lift (ClassFile.parse bytes)
      match ← session.rewriteSelected file with
      | .skipped _ => return .skipped bytes
      | .unchanged _ => return .unchanged bytes
      | .rewritten renamed stats => return .rewritten (← renamed.toBytes) stats
    else return .skipped bytes

def rewriteLabelled (session : Session) (input : Labelled Bytes) :
    Logging (Labelled (Outcome Bytes)) := fun log =>
  match session.rewriteBytes input.content log with
  | .ok outcome log => .ok ⟨input.name, outcome⟩ log
  | .error error log => .error error (log.push (.failedClass input.name error))

def rewriteBatch (session : Session) (inputs : List (Labelled Bytes)) :
    Logging (List (Labelled (Outcome Bytes))) :=
  inputs.mapM session.rewriteLabelled

end Session

structure RenameConfig where
  source : Option TableSource
  filter : ClassFilter
  parallel : Bool

namespace RenameConfig

def default : RenameConfig := ⟨none, .all, true⟩

def openSession (read : FileReader) (config : RenameConfig) : Logging Session := do
  let table ← TableSource.resolveOptional read config.source
  return { Session.ofTable table config.filter with parallel := config.parallel }

end RenameConfig
end ClassRename
