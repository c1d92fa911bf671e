import ClassRename.Command.FileTree
import ClassRename.Rename.Source

namespace ClassRename

structure World where
  files : FileTree
  log : Log

structure Failure where
  sentence : String
  causes : List String
deriving Repr, DecidableEq

namespace Failure

def ofError (error : Error) : Failure := ⟨error.message, []⟩

def ofFault (fault : FileFault) : Failure := ⟨fault.message, []⟩

def within (context : String) (failure : Failure) : Failure :=
  ⟨context, failure.sentence :: failure.causes⟩

def indented (mark : String) (text : String) : String :=
  let margin := String.ofList (List.replicate mark.length ' ')
  mark ++ String.intercalate ("\n" ++ margin) (text.splitOn "\n")

def causeTexts (causes : List String) : List String :=
  match causes with
  | [cause] => [indented "    " cause]
  | causes => causes.mapIdx fun index cause =>
    let number := toString index
    indented (String.ofList (List.replicate (5 - number.length) ' ') ++ number ++ ": ") cause

def text (failure : Failure) : String :=
  let causes :=
    if failure.causes.isEmpty then []
    else ["", "Caused by:"] ++ causeTexts failure.causes
  String.join ((("Error: " ++ failure.sentence) :: causes).map (· ++ "\n"))

end Failure

-- What was done before a failure stays done.
abbrev Command := EStateM Failure World

namespace Command

def within (context : String) (action : Command α) : Command α := fun world =>
  match action world with
  | .ok value world => .ok value world
  | .error failure world => .error (failure.within context) world

def lift (result : Except Error α) : Command α :=
  match result with
  | .ok value => pure value
  | .error error => throw (.ofError error)

def logging (action : Logging α) : Command α := fun world =>
  match action world.log with
  | .ok value log => .ok value { world with log := log }
  | .error error log => .error (.ofError error) { world with log := log }

def readFile (path : String) : Command Bytes := fun world =>
  match world.files.read path with
  | .ok content => .ok content world
  | .error fault => .error (.ofFault fault) world

def changeFiles (change : FileTree → Except FileFault FileTree) : Command Unit := fun world =>
  match change world.files with
  | .ok files => .ok () { world with files := files }
  | .error fault => .error (.ofFault fault) world

def writeFile (path : String) (content : Bytes) : Command Unit := do
  let parent := (Path.parent? path).getD ""
  within ("failed to create directory: " ++ parent) (changeFiles (·.makeDirectories parent))
  within ("failed to write output: " ++ path) (changeFiles (·.write path content))

end Command
end ClassRename
