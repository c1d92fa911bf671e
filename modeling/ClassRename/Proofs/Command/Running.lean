import ClassRename.Command.RefsReport
import ClassRename.Command.RewriteReport
import ClassRename.Proofs.Effects

namespace ClassRename
open Effects

namespace Command

theorem get_bind_apply {next : World → Command α} (world : World) :
    ((get : Command World) >>= next) world = next world world := rfl

theorem choice_bind_iff {choice : Prop} [Decidable choice] {first second : Command α}
    {next : α → Command β} {before after : World} :
    (if choice then first >>= next else second >>= next) before = .ok value after ↔
      ∃ found middle, (if choice then first else second) before = .ok found middle ∧
        next found middle = .ok value after := by
  rw [← run_bind_iff]
  split
  · exact Iff.rfl
  · exact Iff.rfl

theorem within_ok_iff {action : Command α} :
    within context action before = .ok value after ↔ action before = .ok value after := by
  unfold within
  cases action before <;> simp

theorem lift_ok_iff {result : Except Error α} {before after : World} :
    (lift result : Command α) before = .ok value after ↔ result = .ok value ∧ after = before := by
  unfold lift
  cases result with
  | error error =>
    constructor
    · intro impossible
      cases impossible
    · intro stated
      cases stated.1
  | ok found =>
    rw [run_pure_iff, Except.ok.injEq, eq_comm (a := after)]

theorem logging_ok_iff {action : Logging α} {before after : World} :
    logging action before = .ok value after ↔
      ∃ log, action before.log = .ok value log ∧ after = ⟨before.files, log⟩ := by
  unfold logging
  cases action before.log with
  | error error log => simp
  | ok found log =>
    simp only [EStateM.Result.ok.injEq]
    constructor
    · intro stated
      rcases stated with ⟨rfl, rfl⟩
      exact ⟨log, ⟨rfl, rfl⟩, rfl⟩
    · intro stated
      rcases stated with ⟨_, ⟨rfl, rfl⟩, rfl⟩
      exact ⟨rfl, rfl⟩

theorem readFile_ok_iff {before after : World} :
    readFile path before = .ok content after ↔
      before.files.read path = .ok content ∧ after = before := by
  unfold readFile
  cases before.files.read path with
  | error fault => simp
  | ok found => simp [eq_comm]

end Command

namespace Input

-- What stands at a path. Nothing but the files decides it.
inductive Found (files : FileTree) (path : String) : Input → Prop where
  | directory (listed : files.isDirectory path = true) :
      Found files path (ofDirectory (files.filesBelow path))
  | archive (closed : files.isDirectory path = false) (content : files.read path = .ok bytes)
      (named : isArchivePath path = true)
      (accepted : Zip.read ArchiveEntry.hasClassName bytes = .ok entries) :
      Found files path (.archive entries)
  | single (closed : files.isDirectory path = false) (content : files.read path = .ok bytes)
      (named : isArchivePath path = false) : Found files path (.single (Path.shown path) bytes)

theorem ofArchive_ok_iff {before after : World} :
    ofArchive content before = .ok input after ↔
      (∃ entries, Zip.read ArchiveEntry.hasClassName content = .ok entries ∧
        input = .archive entries) ∧ after = before := by
  unfold ofArchive
  cases Zip.read ArchiveEntry.hasClassName content with
  | error fault =>
    constructor
    · intro impossible
      cases impossible
    · intro stated
      rcases stated with ⟨⟨_, impossible, _⟩, _⟩
      cases impossible
  | ok entries =>
    dsimp only
    rw [run_pure_iff]
    simp [eq_comm]

theorem load_ok_iff {before after : World} :
    load path before = .ok input after ↔ Found before.files path input ∧ after = before := by
  rw [load, Command.get_bind_apply]
  constructor
  · intro ran
    split at ran
    · rename_i listed
      obtain ⟨rfl, rfl⟩ := run_pure_iff.mp ran
      exact ⟨.directory listed, rfl⟩
    · rename_i closed
      have closed := Bool.eq_false_iff.mpr closed
      simp only [run_bind_iff, Command.within_ok_iff, Command.readFile_ok_iff] at ran
      obtain ⟨bytes, _, ⟨content, rfl⟩, ran⟩ := ran
      split at ran
      · rename_i named
        obtain ⟨⟨_, accepted, rfl⟩, rfl⟩ := ofArchive_ok_iff.mp (Command.within_ok_iff.mp ran)
        exact ⟨.archive closed content named accepted, rfl⟩
      · rename_i named
        obtain ⟨rfl, rfl⟩ := run_pure_iff.mp ran
        exact ⟨.single closed content (Bool.eq_false_iff.mpr named), rfl⟩
  · intro stated
    rcases stated with ⟨found, rfl⟩
    cases found with
    | directory listed =>
      rw [if_pos listed]
      rfl
    | archive closed content named accepted =>
      rw [closed, if_neg Bool.false_ne_true]
      refine run_bind_iff.mpr ⟨_, _, Command.within_ok_iff.mpr
        (Command.readFile_ok_iff.mpr ⟨content, rfl⟩), ?_⟩
      rw [if_pos named]
      exact Command.within_ok_iff.mpr (ofArchive_ok_iff.mpr ⟨⟨_, accepted, rfl⟩, rfl⟩)
    | single closed content named =>
      rw [closed, if_neg Bool.false_ne_true]
      refine run_bind_iff.mpr ⟨_, _, Command.within_ok_iff.mpr
        (Command.readFile_ok_iff.mpr ⟨content, rfl⟩), ?_⟩
      rw [named, if_neg Bool.false_ne_true]
      rfl

theorem Found.unique (one : Found files path first) (other : Found files path second) :
    first = second := by
  have ran : load path ⟨files, #[]⟩ = .ok first ⟨files, #[]⟩ := load_ok_iff.mpr ⟨one, rfl⟩
  have again : load path ⟨files, #[]⟩ = .ok second ⟨files, #[]⟩ := load_ok_iff.mpr ⟨other, rfl⟩
  rw [ran] at again
  injection again

end Input

namespace RefsRequest

def Listed (table : RenameTable) (item : Labelled Bytes) (found : List Reference) : Prop :=
  ∃ file name, ClassFile.parse item.content = .ok file ∧
    file.pool.encodedClassName file.thisClass = .ok name ∧
    found = Reference.ofClass table name.lossy file

theorem references_ok_iff {table : RenameTable} {before after : World} :
    references table item before = .ok found after ↔ Listed table item found ∧ after = before := by
  simp only [references, run_bind_iff, run_pure_iff, Command.within_ok_iff, Command.lift_ok_iff, Listed]
  constructor
  · intro stated
    rcases stated with ⟨file, _, ⟨parsed, rfl⟩, name, _, ⟨named, rfl⟩, rfl, rfl⟩
    exact ⟨⟨file, name, parsed, named, rfl⟩, rfl⟩
  · intro stated
    rcases stated with ⟨⟨file, name, parsed, named, rfl⟩, rfl⟩
    exact ⟨file, _, ⟨parsed, rfl⟩, name, _, ⟨named, rfl⟩, rfl, rfl⟩

theorem mapM_references_ok_iff {table : RenameTable} {items : List (Labelled Bytes)}
    {before after : World} : items.mapM (references table) before = .ok found after ↔
      List.Forall₂ (Listed table) items found ∧ after = before := by
  apply mapM_still_iff
  intro _ _ _ _
  exact references_ok_iff

theorem loadTable_ok_iff {request : RefsRequest} {table : RenameTable} {before after : World}
    (given : request.table = some path) :
    request.loadTable before = .ok table after ↔
      ∃ log, TableSource.loadFile before.files.read path before.log = .ok table log ∧
        after = ⟨before.files, log⟩ := by
  unfold loadTable
  rw [given]
  dsimp only
  rw [Command.get_bind_apply, Command.within_ok_iff, Command.logging_ok_iff]

theorem run_ok_iff {request : RefsRequest} {before after : World} :
    request.run before = .ok report after ↔
      ∃ table input found, request.loadTable before = .ok table after ∧
        Input.Found after.files request.input input ∧
        List.Forall₂ (Listed table) input.classes found ∧
        report = .ofReferences input.classes.length request.renamedOnly found.flatten := by
  simp only [run, run_bind_iff, run_pure_iff, Input.load_ok_iff]
  constructor
  · intro stated
    rcases stated with ⟨table, _, loaded, input, _, ⟨given, rfl⟩, found, _, walked, rfl, rfl⟩
    obtain ⟨listed, rfl⟩ := mapM_references_ok_iff.mp walked
    exact ⟨table, input, found, loaded, given, listed, rfl⟩
  · intro stated
    rcases stated with ⟨table, input, found, loaded, given, listed, rfl⟩
    have walked : input.classes.mapM (references table) after = .ok found after :=
      mapM_references_ok_iff.mpr ⟨listed, rfl⟩
    exact ⟨table, after, loaded, input, after, ⟨given, rfl⟩, found, after, walked, rfl, rfl⟩

end RefsRequest

namespace RewriteRequest

def session (request : RewriteRequest) (table : RenameTable) : Session :=
  ⟨table, request.filter, !request.sequential⟩

def noted (request : RewriteRequest) (input : Input) (log : Log) : Log :=
  if input.classes.isEmpty then log.push (.noClasses request.input) else log

def target (request : RewriteRequest) : String := request.output.getD request.input

def report (request : RewriteRequest) (table : RenameTable) (written : Nat)
    (outputs : List (Labelled (Outcome Bytes))) : RewriteReport :=
  ⟨request.input, if request.dryRun then none else some request.target, request.table, table.size,
    written, .ofOutputs outputs⟩

theorem openSession_ok_iff {request : RewriteRequest} {files : FileReader} {opened : Session} :
    RenameConfig.openSession files ⟨some (.file request.table), request.filter, !request.sequential⟩
        before = .ok opened after ↔
      ∃ table, TableSource.loadFile files request.table before = .ok table after ∧
        opened = request.session table := by
  simp only [RenameConfig.openSession, TableSource.resolveOptional, TableSource.resolve, run_bind_iff,
    run_pure_iff]
  constructor
  · intro stated
    rcases stated with ⟨table, _, loaded, rfl, rfl⟩
    exact ⟨table, loaded, rfl⟩
  · intro stated
    rcases stated with ⟨table, loaded, rfl⟩
    exact ⟨table, _, loaded, rfl, rfl⟩

theorem noted_apply {request : RewriteRequest} {input : Input} {next : Command α} (world : World) :
    (if input.classes.isEmpty then
      Command.logging (Logging.record (.noClasses request.input)) >>= fun _ => next
    else next) world = next ⟨world.files, request.noted input world.log⟩ := by
  unfold noted
  split
  · rfl
  · rfl

-- The input is written last, and not at all in a dry run.
theorem run_ok_iff {request : RewriteRequest} {before after : World} :
    request.run before = .ok result after ↔
      ∃ table opened input outputs log written,
        TableSource.loadFile before.files.read request.table before.log = .ok table opened ∧
        Input.Found before.files request.input input ∧
        (request.session table).rewriteBatch input.classes (request.noted input opened) =
          .ok outputs log ∧
        (if request.dryRun then pure 0 else input.write request.input request.target outputs :
          Command Nat) ⟨before.files, log⟩ = .ok written after ∧
        result = request.report table written outputs := by
  rw [run, Command.get_bind_apply]
  simp only [run_bind_iff, Command.within_ok_iff, Command.logging_ok_iff, openSession_ok_iff,
    Input.load_ok_iff, noted_apply, Command.choice_bind_iff, run_pure_iff]
  constructor
  · intro stated
    rcases stated with ⟨_, _, ⟨opened, ⟨table, loaded, rfl⟩, rfl⟩, input, _, ⟨found, rfl⟩, outputs, _,
      ⟨log, rewrote, rfl⟩, written, _, wrote, rfl, rfl⟩
    exact ⟨table, opened, input, outputs, log, written, loaded, found, rewrote, wrote, rfl⟩
  · intro stated
    rcases stated with ⟨table, opened, input, outputs, log, written, loaded, found, rewrote, wrote, rfl⟩
    exact ⟨_, _, ⟨opened, ⟨table, loaded, rfl⟩, rfl⟩, input, _, ⟨found, rfl⟩, outputs, _,
      ⟨log, rewrote, rfl⟩, written, _, wrote, rfl, rfl⟩

end RewriteRequest
end ClassRename
