import ClassRename.Command.Input
import ClassRename.Proofs.Rename.Counting
import ClassRename.Proofs.Rename.Recording
import ClassRename.Proofs.Rename.Repeating
import Mathlib.Data.List.Induction

namespace ClassRename
open Effects

def Outcome.written? : Outcome α → Option α
  | .rewritten result _ => some result
  | _ => none

theorem Outcome.written?_eq_none_iff {outcome : Outcome α} :
    outcome.written? = none ↔ outcome.isRewritten = false := by
  cases outcome <;> simp [written?, isRewritten]

namespace Session

def rewritten? (session : Session) (data : Bytes) : Option Bytes :=
  match session.rewriteBytes data #[] with
  | .ok outcome _ => outcome.written?
  | .error .. => none

theorem rewritten?_of_run {session : Session}
    (ran : session.rewriteBytes data before = .ok outcome after) :
    session.rewritten? data = outcome.written? := by
  obtain ⟨_, again, _⟩ := session.rewriteBytes_blind data before #[] outcome after rfl ran
  rw [rewritten?, again]

def renewed? (session : Session) (entry : ArchiveEntry) : Option Bytes :=
  if entry.isClass then session.rewritten? entry.content else none

def EntryByEntry (session : Session) (entries written : Archive) : Prop :=
  List.Forall₂ (fun entry result => result.name = entry.name ∧
    result.content = (session.renewed? entry).getD entry.content) entries written

end Session

namespace Archive

def lastClass (entries : Archive) (name : String) : Option ArchiveEntry :=
  ((entries.filter ArchiveEntry.isClass).filter (·.name == name)).getLast?

theorem lastClass_some {entries : Archive} (found : entries.lastClass name = some last) :
    last ∈ entries ∧ last.isClass = true ∧ last.name = name := by
  obtain ⟨among, named⟩ := List.mem_filter.mp (List.mem_of_getLast? found)
  obtain ⟨member, isClass⟩ := List.mem_filter.mp among
  exact ⟨member, isClass, eq_of_beq named⟩

theorem lastClass_isSome {entries : Archive} (member : entry ∈ entries)
    (isClass : entry.isClass = true) : ∃ last, entries.lastClass entry.name = some last := by
  have among : entry ∈ entries.filter ArchiveEntry.isClass := List.mem_filter.mpr ⟨member, isClass⟩
  have present : entry ∈ (entries.filter ArchiveEntry.isClass).filter (·.name == entry.name) :=
    List.mem_filter.mpr ⟨among, beq_self_eq_true entry.name⟩
  exact ⟨_, List.getLast?_eq_some_getLast (List.ne_nil_of_mem present)⟩

-- No two classes of one name differ.
def Unambiguous (entries : Archive) : Prop :=
  ∀ one ∈ entries, ∀ other ∈ entries, one.isClass = true → other.name = one.name →
    other.content = one.content

instance (entries : Archive) : Decidable entries.Unambiguous :=
  inferInstanceAs (Decidable (∀ one ∈ entries, ∀ other ∈ entries, one.isClass = true →
    other.name = one.name → other.content = one.content))

end Archive

namespace Session

def settled? (session : Session) (entries : Archive) (name : String) : Option Bytes :=
  (entries.lastClass name).bind session.renewed?

theorem settled?_of_unambiguous {session : Session} {entries : Archive}
    (unambiguous : entries.Unambiguous) (member : entry ∈ entries) :
    session.settled? entries entry.name = session.renewed? entry := by
  unfold settled? renewed?
  cases isClass : entry.isClass with
  | true =>
    obtain ⟨last, found⟩ := Archive.lastClass_isSome member isClass
    obtain ⟨present, lastClass, named⟩ := Archive.lastClass_some found
    rw [found, Option.bind_some, lastClass, unambiguous entry member last present isClass named]
  | false =>
    cases found : entries.lastClass entry.name with
    | none => rfl
    | some last =>
      obtain ⟨_, lastClass, named⟩ := Archive.lastClass_some found
      rw [ArchiveEntry.isClass, named] at lastClass
      rw [ArchiveEntry.isClass, lastClass] at isClass
      cases isClass

def leaves (session : Session) (entries : Archive) (entry : ArchiveEntry) : ArchiveEntry :=
  ((session.settled? entries entry.name).map entry.replaceContent).getD entry

theorem leaves_name (session : Session) (entries : Archive) (entry : ArchiveEntry) :
    (session.leaves entries entry).name = entry.name := by
  unfold leaves
  cases session.settled? entries entry.name <;> rfl

theorem leaves_content (session : Session) (entries : Archive) (entry : ArchiveEntry) :
    (session.leaves entries entry).content =
      (session.settled? entries entry.name).getD entry.content := by
  unfold leaves
  cases session.settled? entries entry.name <;> rfl

theorem contents_leaves (session : Session) (entries : Archive) :
    Archive.contents (entries.map (session.leaves entries)) =
      entries.map fun entry =>
        (entry.name, (session.settled? entries entry.name).getD entry.content) := by
  simp only [Archive.contents, List.map_map, Function.comp_def, leaves_name, leaves_content]

theorem entryByEntry_leaves_iff {session : Session} {entries : Archive} :
    session.EntryByEntry entries (entries.map (session.leaves entries)) ↔
      ∀ entry ∈ entries, (session.settled? entries entry.name).getD entry.content =
        (session.renewed? entry).getD entry.content := by
  rw [EntryByEntry, List.forall₂_map_right_iff, List.forall₂_same]
  simp only [leaves_name, leaves_content, true_and]

end Session

namespace Input

theorem replacements_get? (outputs : List (Labelled (Outcome Bytes))) (name : String) :
    (replacements outputs)[name]? =
      (outputs.filter (·.name == name)).getLast?.map (·.content) := by
  induction outputs using List.reverseRecOn with
  | nil => exact Std.HashMap.getElem?_empty
  | append_singleton front last ih =>
    have inserted : replacements (front ++ [last]) =
        (replacements front).insert last.name last.content := List.foldl_append
    rw [inserted, Std.HashMap.getElem?_insert, List.filter_append, ih]
    cases named : last.name == name with
    | true => simp [named]
    | false => simp [named]

theorem getLast?_congr {α β γ : Type} {named : α → String} {found : α → Option γ}
    {other : β → String} {given : β → Option γ} {items : List α} {others : List β}
    (same : items.map (fun item => (named item, found item)) =
      others.map fun item => (other item, given item)) (name : String) :
    (items.filter (named · == name)).getLast?.bind found =
      (others.filter (other · == name)).getLast?.bind given := by
  have looked {δ : Type} (key : δ → String) (value : δ → Option γ) (all : List δ) :
      (all.filter (key · == name)).getLast?.bind value =
        ((all.map fun item => (key item, value item)).filter (·.1 == name)).getLast?.bind (·.2) := by
    rw [List.filter_map, List.getLast?_map, Option.bind_map]
    rfl
  rw [looked, same, ← looked]

theorem replacements_settled {session : Session} {entries : Archive}
    (ran : session.rewriteBatch (archive entries).classes before = .ok outputs after)
    (name : String) :
    (replacements outputs)[name]?.bind Outcome.written? = session.settled? entries name := by
  have each := List.forall₂_map_left_iff.mp (Session.rewriteBatch_each ran)
  have pairs : outputs.map (fun output => (output.name, output.content.written?)) =
      (entries.filter ArchiveEntry.isClass).map fun entry =>
        (entry.name, session.rewritten? entry.content) := by
    refine map_eq_of_forall₂ (each.imp fun entry output came => ?_)
    obtain ⟨named, _, _, came⟩ := came
    rw [named, Session.rewritten?_of_run came]
  have settled : session.settled? entries name =
      (((entries.filter ArchiveEntry.isClass).filter (·.name == name)).getLast?).bind
        fun entry => session.rewritten? entry.content := by
    refine Option.bind_congr fun entry found => ?_
    obtain ⟨_, isClass, _⟩ := Archive.lastClass_some found
    rw [Session.renewed?, if_pos isClass]
  rw [settled, replacements_get?, Option.bind_map]
  exact getLast?_congr pairs name

theorem rewriteArchive_apply (entries : Archive) (outputs : List (Labelled (Outcome Bytes))) :
    rewriteArchive entries outputs = entries.map fun entry =>
      (((replacements outputs)[entry.name]?.bind Outcome.written?).map entry.replaceContent).getD
        entry := by
  refine List.map_congr_left fun entry _ => ?_
  dsimp only
  rcases (replacements outputs)[entry.name]? with _ | ⟨_ | _ | _⟩ <;> rfl

theorem rewriteArchive_leaves {session : Session} {entries : Archive}
    (ran : session.rewriteBatch (archive entries).classes before = .ok outputs after) :
    rewriteArchive entries outputs = entries.map (session.leaves entries) := by
  rw [rewriteArchive_apply]
  refine List.map_congr_left fun entry _ => ?_
  rw [replacements_settled ran, Session.leaves]

theorem rewriteArchive_unchanged
    (none : outputs.filter (fun output => output.content.isRewritten) = []) (entries : Archive) :
    rewriteArchive entries outputs = entries := by
  have kept (name : String) : (replacements outputs)[name]?.bind Outcome.written? = .none := by
    rw [replacements_get?, Option.bind_map]
    refine Option.bind_eq_none_iff.mpr fun output found => ?_
    have member := (List.mem_filter.mp (List.mem_of_getLast? found)).1
    exact Outcome.written?_eq_none_iff.mpr
      (Bool.eq_false_iff.mpr (List.filter_eq_nil_iff.mp none output member))
  rw [rewriteArchive_apply]
  simp only [kept, Option.map_none, Option.getD_none, List.map_id']

-- What stands at the target afterwards. An archive over itself is left alone when nothing in it
-- changes.
inductive Delivers (source target : String) (entries written : Archive) (world : World) :
    World → Prop where
  | whole (wrote : Command.writeFile target (Zip.write written) world = .ok () later) :
      Delivers source target entries written world later
  | alone (same : Path.same source target = true) (unchanged : written = entries) :
      Delivers source target entries written world world

theorem write_archive_delivers {world later : World}
    (wrote : (archive entries).write source target outputs world = .ok count later) :
    Delivers source target entries (rewriteArchive entries outputs) world later := by
  unfold write at wrote
  dsimp only at wrote
  split at wrote
  · rename_i idle
    obtain ⟨same, none⟩ := Bool.and_eq_true_iff.mp idle
    obtain ⟨_, rfl⟩ := run_pure_iff.mp wrote
    exact .alone same (rewriteArchive_unchanged (List.isEmpty_iff.mp none) entries)
  · simp only [run_bind_iff, run_pure_iff] at wrote
    obtain ⟨_, _, wrote, _, rfl⟩ := wrote
    exact .whole wrote

-- A pass over an archive keeps the entries' names and their order. An entry gets what the last class
-- of its name is rewritten to, whatever the entry itself holds, and is kept as it is if that class
-- is not rewritten. So each entry has what comes of its own content only if this is the same, as it
-- is when no two classes of one name differ.
theorem write_archive_by_name {session : Session} {entries : Archive}
    (ran : session.rewriteBatch (archive entries).classes before = .ok outputs after) :
    (∀ source target world count later,
      (archive entries).write source target outputs world = .ok count later →
        Delivers source target entries (rewriteArchive entries outputs) world later) ∧
    (rewriteArchive entries outputs).map (·.name) = entries.map (·.name) ∧
    rewriteArchive entries outputs = entries.map (session.leaves entries) ∧
    (session.EntryByEntry entries (rewriteArchive entries outputs) ↔
      ∀ entry ∈ entries, (session.settled? entries entry.name).getD entry.content =
        (session.renewed? entry).getD entry.content) ∧
    (entries.Unambiguous → session.EntryByEntry entries (rewriteArchive entries outputs)) := by
  rw [rewriteArchive_leaves ran]
  refine ⟨?_, ?_, rfl, Session.entryByEntry_leaves_iff, fun unambiguous => ?_⟩
  · intro source target world count later wrote
    rw [← rewriteArchive_leaves ran]
    exact write_archive_delivers wrote
  · rw [List.map_map]
    exact List.map_congr_left fun entry _ => session.leaves_name entries entry
  · refine Session.entryByEntry_leaves_iff.mpr fun entry member => ?_
    rw [Session.settled?_of_unambiguous unambiguous member]

open ClassFile (mirrorPool mirrorGrown mirrorStored mirrorTable mirror_parsed mirror_written
  mirror_rename)

def storedEntry (name : String) (content : Bytes) : ArchiveEntry :=
  ⟨name, content, 0, Checksum.crc32 content, content.length, content.length, 0,
    ArchiveEntry.regularMode⟩

theorem mirror_pass (log : Log) :
    (Session.ofTable mirrorTable .all).rewriteBytes (mirrorStored mirrorPool 2).toBytes log =
      .ok (.rewritten (mirrorStored mirrorGrown 6).toBytes ⟨1, 0, 0, 1⟩)
        (log.push (.rewrote "A" ⟨1, 0, 0, 1⟩)) := by
  have peeked : ClassFile.peekName (mirrorStored mirrorPool 2).toBytes = .ok (some "A") := by
    decide +kernel
  exact Session.rewriteBytes_renames mirror_parsed peeked rfl mirror_rename rfl mirror_written log

theorem mirror_settled {entries : Archive} (last : entries.lastClass name =
    some (storedEntry "A.class" (mirrorStored mirrorPool 2).toBytes)) :
    (Session.ofTable mirrorTable .all).settled? entries name =
      some (mirrorStored mirrorGrown 6).toBytes := by
  rw [Session.settled?, last, Option.bind_some, Session.renewed?, if_pos (by decide)]
  exact Session.rewritten?_of_run (mirror_pass #[])

def bundle : Archive :=
  [storedEntry "NOTE" [1], storedEntry "A.class" (mirrorStored mirrorPool 2).toBytes,
    storedEntry "NOTE" [2]]

theorem bundle_entryByEntry : ∃ outputs after,
    (Session.ofTable mirrorTable .all).rewriteBatch (archive bundle).classes #[] = .ok outputs after ∧
    (∀ source target world count later,
      (archive bundle).write source target outputs world = .ok count later →
        Delivers source target bundle (rewriteArchive bundle outputs) world later) ∧
    (rewriteArchive bundle outputs).contents =
      [("NOTE", [1]), ("A.class", (mirrorStored mirrorGrown 6).toBytes), ("NOTE", [2])] ∧
    (Session.ofTable mirrorTable .all).EntryByEntry bundle (rewriteArchive bundle outputs) := by
  have classes : (archive bundle).classes = [⟨"A.class", (mirrorStored mirrorPool 2).toBytes⟩] := rfl
  have each : ∀ input ∈ (archive bundle).classes, ∃ outcome after,
      (Session.ofTable mirrorTable .all).rewriteBytes input.content #[] = .ok outcome after := by
    rw [classes]
    exact List.forall_mem_singleton.mpr ⟨_, _, mirror_pass #[]⟩
  obtain ⟨outputs, after, ran⟩ := Session.rewriteBatch_total each #[]
  obtain ⟨delivers, _, left, _, unambiguous⟩ := write_archive_by_name ran
  have settled : (Session.ofTable mirrorTable .all).settled? bundle "A.class" =
      some (mirrorStored mirrorGrown 6).toBytes := mirror_settled rfl
  have none : (Session.ofTable mirrorTable .all).settled? bundle "NOTE" = none := rfl
  refine ⟨outputs, after, ran, delivers, ?_, unambiguous (by decide +kernel)⟩
  rw [left, Session.contents_leaves]
  change [("NOTE", (Session.settled? _ bundle "NOTE").getD [1]),
    ("A.class", (Session.settled? _ bundle "A.class").getD _),
    ("NOTE", (Session.settled? _ bundle "NOTE").getD [2])] = _
  rw [settled, none]
  rfl

def bareStored : StoredClass := { mirrorStored mirrorPool 2 with methods := [] }

theorem bare_pass (log : Log) :
    (Session.ofTable mirrorTable .all).rewriteBytes bareStored.toBytes log =
      .ok (.unchanged bareStored.toBytes) log := by
  have peeked : ClassFile.peekName bareStored.toBytes = .ok (some "A") := by decide +kernel
  have instructions : (ClassFile.parse bareStored.toBytes).toOption.map ClassFile.instructions =
      some [] := by
    decide +kernel
  obtain ⟨file, accepted, none⟩ := Option.map_eq_some_iff.mp instructions
  refine Session.rewriteBytes_unchanged (toOption_some_iff.mp accepted) peeked rfl ?_ log
  refine ClassFile.rename_isEmpty fun instruction member => ?_
  rw [none] at member
  cases member

def twins : Archive :=
  [storedEntry "A.class" bareStored.toBytes,
    storedEntry "A.class" (mirrorStored mirrorPool 2).toBytes]

-- The class that nothing is renamed in is lost to the one behind it of the same name.
theorem twins_overwritten : ∃ outputs after,
    (Session.ofTable mirrorTable .all).rewriteBatch (archive twins).classes #[] = .ok outputs after ∧
    (∀ source target world count later,
      (archive twins).write source target outputs world = .ok count later →
        Command.writeFile target (Zip.write (rewriteArchive twins outputs)) world = .ok () later) ∧
    (rewriteArchive twins outputs).contents =
      [("A.class", (mirrorStored mirrorGrown 6).toBytes),
        ("A.class", (mirrorStored mirrorGrown 6).toBytes)] ∧
    ¬(Session.ofTable mirrorTable .all).EntryByEntry twins (rewriteArchive twins outputs) := by
  have classes : (archive twins).classes = [⟨"A.class", bareStored.toBytes⟩,
      ⟨"A.class", (mirrorStored mirrorPool 2).toBytes⟩] := rfl
  have each : ∀ input ∈ (archive twins).classes, ∃ outcome after,
      (Session.ofTable mirrorTable .all).rewriteBytes input.content #[] = .ok outcome after := by
    rw [classes]
    exact List.forall_mem_cons.mpr
      ⟨⟨_, _, bare_pass #[]⟩, List.forall_mem_singleton.mpr ⟨_, _, mirror_pass #[]⟩⟩
  obtain ⟨outputs, after, ran⟩ := Session.rewriteBatch_total each #[]
  have settled : (Session.ofTable mirrorTable .all).settled? twins "A.class" =
      some (mirrorStored mirrorGrown 6).toBytes := mirror_settled rfl
  have left := rewriteArchive_leaves ran
  have contents : (rewriteArchive twins outputs).contents =
      [("A.class", (mirrorStored mirrorGrown 6).toBytes),
        ("A.class", (mirrorStored mirrorGrown 6).toBytes)] := by
    rw [left, Session.contents_leaves]
    change [("A.class", (Session.settled? _ twins "A.class").getD _),
      ("A.class", (Session.settled? _ twins "A.class").getD _)] = _
    rw [settled]
    rfl
  refine ⟨outputs, after, ran, ?_, contents, ?_⟩
  · intro source target world count later wrote
    cases write_archive_delivers wrote with
    | whole wrote => exact wrote
    | alone _ unchanged =>
      rw [unchanged] at contents
      exact absurd contents (by decide +kernel)
  · intro each
    rw [left] at each
    have own : (Session.ofTable mirrorTable .all).renewed?
        (storedEntry "A.class" bareStored.toBytes) = none := by
      rw [Session.renewed?, if_pos (by decide)]
      exact Session.rewritten?_of_run (bare_pass #[])
    have first := Session.entryByEntry_leaves_iff.mp each _ List.mem_cons_self
    rw [own] at first
    change (Session.settled? _ twins "A.class").getD _ = _ at first
    rw [settled] at first
    exact absurd first (by decide +kernel)

end Input
end ClassRename
