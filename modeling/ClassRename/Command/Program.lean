import ClassRename.Command.RefsReport
import ClassRename.Command.RewriteReport
import ClassRename.Text.ControlSequence

namespace ClassRename

structure Execution where
  exit : UInt8
  standardOutput : String
  standardError : String
  files : FileTree

namespace Program

def versionText : String := "classremap 0.1.0\n"

def usage : String :=
  "Usage: classremap [--json] [-v] rewrite INPUT -t JSON [-o PATH]\n" ++
    "                  [--prefix TEXT | --suffix TEXT] [--dry-run] [--sequential]\n" ++
    "       classremap [--json] [-v] refs INPUT [-t JSON] [--renamed-only]\n"

def joinLines (lines : List String) : String := String.join (lines.map (· ++ "\n"))

def shows (style : Style) (event : Event) : Bool :=
  !style.json && (style.verbose || event.level.rank ≤ Level.info.rank)

-- Level names are padded to five letters, and lines of a record after its first are indented.
-- A record is shown without control sequences; one that is left open takes the line break that
-- ends the record with it.
def logLine (event : Event) : String :=
  let level := event.level.name
  let padding := String.ofList (List.replicate (5 - level.length) ' ')
  Text.withoutControls ("[" ++ level ++ padding ++ "] " ++
    String.intercalate "\n    " (event.message.splitOn "\n") ++ "\n")

def logText (style : Style) (log : Log) : String :=
  String.join ((log.toList.filter (shows style)).map logLine)

structure Shown where
  json : Json
  listing : String
  summary : List String

def perform : Request → Command Shown
  | .rewrite request => do
    let report ← request.run
    return ⟨report.json, report.listing, report.summary⟩
  | .refs request => do
    let report ← request.run
    return ⟨report.json, report.listing, report.summary⟩

def execute (style : Style) (request : Request) (files : FileTree) : Execution :=
  match perform request ⟨files, #[]⟩ with
  | .ok shown world =>
    let told := logText style world.log
    if style.json then ⟨0, shown.json.pretty ++ "\n", told, world.files⟩
    else ⟨0, shown.listing, told ++ joinLines shown.summary, world.files⟩
  | .error failure world => ⟨1, "", logText style world.log ++ failure.text, world.files⟩

def run (arguments : List String) (files : FileTree) : Execution :=
  match Arguments.read arguments with
  | .error .help => ⟨0, usage, "", files⟩
  | .error .version => ⟨0, versionText, "", files⟩
  | .error .misused => ⟨2, "", usage, files⟩
  | .ok (style, request) => execute style request files

end Program
end ClassRename
