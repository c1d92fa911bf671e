import ClassRename.Archive.Zip.Reader
import ClassRename.Archive.Zip.Writer
import ClassRename.Command.World
import ClassRename.Rename.Session

namespace ClassRename

inductive Input where
  | single (name : String) (content : Bytes)
  | directory (classes resources : List (String × Bytes))
  | archive (entries : Archive)

namespace Input

def classes : Input → List (Labelled Bytes)
  | .single name content => [⟨name, content⟩]
  | .directory classes _ => classes.map fun (name, content) => ⟨name, content⟩
  | .archive entries =>
    (entries.filter ArchiveEntry.isClass).map fun entry => ⟨entry.name, entry.content⟩

def isArchivePath (path : String) : Bool :=
  match Path.extension? path with
  | some extension => extension = "jar" || extension = "zip"
  | none => false

def isClassPath (path : String) : Bool := Path.extension? path = some "class"

def ofDirectory (files : List (String × Bytes)) : Input :=
  let (classes, resources) := files.partition fun (name, _) => isClassPath name
  .directory classes resources

def failureOf (fault : Zip.Fault) : Failure :=
  match fault.sentences with
  | [] => ⟨"", []⟩
  | sentence :: causes => ⟨sentence, causes⟩

def ofArchive (content : Bytes) : Command Input :=
  match Zip.read ArchiveEntry.hasClassName content with
  | .ok entries => pure (.archive entries)
  | .error fault => throw (failureOf fault)

def load (path : String) : Command Input := do
  let files := (← get).files
  if files.isDirectory path then return ofDirectory (files.filesBelow path)
  let content ← Command.within ("failed to read " ++ path) (Command.readFile path)
  if isArchivePath path then
    Command.within ("failed to read archive: " ++ path) (ofArchive content)
  else return .single (Path.shown path) content

-- The new content of a class that was rewritten, by its name. Of several classes with one name
-- the last one counts.
def replacements (outputs : List (Labelled (Outcome Bytes))) :
    Std.HashMap String (Outcome Bytes) :=
  outputs.foldl (fun found output => found.insert output.name output.content) ∅

def rewriteArchive (entries : Archive) (outputs : List (Labelled (Outcome Bytes))) : Archive :=
  let found := replacements outputs
  entries.replace fun name =>
    match found[name]? with
    | some (.rewritten content _) => some content
    | _ => none

def copyResources (source target : String) (resources : List (String × Bytes)) : Command Unit :=
  resources.forM fun (name, _) => do
    let destination := Path.join target name
    Command.changeFiles (·.makeDirectories ((Path.parent? destination).getD ""))
    Command.within ("failed to copy " ++ destination)
      (Command.changeFiles (·.copy (Path.join source name) destination))

def write (input : Input) (source target : String) (outputs : List (Labelled (Outcome Bytes))) :
    Command Nat := do
  let changed := outputs.filter fun output => output.content.isRewritten
  let due := if Path.same source target then changed else outputs
  match input with
  | .single .. => do
    due.forM fun output => Command.writeFile target output.content.result
    return due.length
  | .directory _ resources => do
    due.forM fun output =>
      Command.writeFile (Path.join target output.name) output.content.result
    if !Path.same source target then copyResources source target resources
    return due.length
  | .archive entries => do
    if Path.same source target && changed.isEmpty then return 0
    Command.writeFile target (Zip.write (rewriteArchive entries outputs))
    return changed.length

end Input
end ClassRename
