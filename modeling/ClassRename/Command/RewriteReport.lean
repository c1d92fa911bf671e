import ClassRename.Command.Arguments
import ClassRename.Command.Input
import ClassRename.Command.TextTable

namespace ClassRename

structure Tally where
  scanned : Nat
  rewritten : Nat
  unchanged : Nat
  skipped : Nat
  totals : Stats
  classes : List (String × Stats)
deriving Repr, DecidableEq

structure RewriteReport where
  input : String
  output : Option String
  table : String
  renames : Nat
  written : Nat
  tally : Tally
deriving Repr, DecidableEq

namespace Tally

def changed (output : Labelled (Outcome Bytes)) : Option (String × Stats) :=
  match output.content with
  | .rewritten _ stats => some (output.name, stats)
  | _ => none

def isSkipped (output : Labelled (Outcome Bytes)) : Bool :=
  match output.content with
  | .skipped _ => true
  | _ => false

def isUnchanged (output : Labelled (Outcome Bytes)) : Bool :=
  match output.content with
  | .unchanged _ => true
  | _ => false

def ofOutputs (outputs : List (Labelled (Outcome Bytes))) : Tally :=
  let classes := outputs.filterMap changed
  ⟨outputs.length, classes.length, outputs.countP isUnchanged, outputs.countP isSkipped,
    (classes.map Prod.snd).foldl Stats.add .zero, classes⟩

end Tally

namespace RewriteReport

def statsMembers (stats : Stats) : List (String × Json) :=
  [("methods", .nat stats.methods), ("field_refs", .nat stats.fieldRefs),
    ("method_refs", .nat stats.methodRefs), ("type_constants", .nat stats.typeConstants)]

def json (report : RewriteReport) : Json :=
  .object [("input", .string report.input), ("output", .ofOption report.output),
    ("table", .string report.table), ("renames", .nat report.renames),
    ("dry_run", .bool report.output.isNone), ("scanned", .nat report.tally.scanned),
    ("rewritten", .nat report.tally.rewritten), ("unchanged", .nat report.tally.unchanged),
    ("skipped", .nat report.tally.skipped), ("written", .nat report.written),
    ("totals", .object (statsMembers report.tally.totals)),
    ("classes", .array (report.tally.classes.map fun (name, stats) =>
      .object (("name", .string name) :: statsMembers stats)))]

def columns : List Column :=
  [⟨"CLASS", .left⟩, ⟨"METHODS", .right⟩, ⟨"FIELDS", .right⟩, ⟨"INVOKES", .right⟩,
    ⟨"LDC", .right⟩]

def row (name : String) (stats : Stats) : List String :=
  [name, toString stats.methods, toString stats.fieldRefs, toString stats.methodRefs,
    toString stats.typeConstants]

def listing (report : RewriteReport) : String :=
  if report.tally.classes.isEmpty then ""
  else TextTable.render columns (report.tally.classes.map fun (name, stats) => row name stats) ++
    "\n"

def summary (report : RewriteReport) : List String :=
  let tally := report.tally
  [s!"{Path.shown report.input}: {tally.scanned} classes scanned, {tally.rewritten} rewritten, " ++
      s!"{tally.unchanged} unchanged, {tally.skipped} skipped",
    s!"  References:  {tally.totals.fieldRefs} field, {tally.totals.methodRefs} method, " ++
      s!"{tally.totals.typeConstants} class literal ({tally.totals.substitutions} total)",
    match report.output with
    | some output => s!"  Written:     {report.written} class files to {output}"
    | none => "  Dry run, nothing written"]

end RewriteReport

-- The table is read before the input, and nothing is written unless every class succeeds.
def RewriteRequest.run (request : RewriteRequest) : Command RewriteReport := do
  let config : RenameConfig := ⟨some (.file request.table), request.filter, !request.sequential⟩
  let files := (← get).files
  let session ← Command.within ("failed to load rename table: " ++ request.table)
    (Command.logging (config.openSession files.read))
  let input ← Input.load request.input
  if input.classes.isEmpty then
    Command.logging (Logging.record (.noClasses request.input))
  let outputs ← Command.within ("rewrite failed: " ++ request.input)
    (Command.logging (session.rewriteBatch input.classes))
  let target := request.output.getD request.input
  let written ←
    if request.dryRun then pure 0 else input.write request.input target outputs
  return ⟨request.input, if request.dryRun then none else some target, request.table,
    session.table.size, written, .ofOutputs outputs⟩

end ClassRename
