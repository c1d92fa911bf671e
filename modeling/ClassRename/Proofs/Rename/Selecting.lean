import ClassRename.Proofs.ClassFile.Parsing
import ClassRename.Proofs.Rename.Repeating

namespace ClassRename
open Effects

namespace ClassFile

-- The bytes of a class up to and including the index of its own name, with what the reader of
-- that name skips.
structure Opening where
  versions : Bytes
  pool : Pool
  flags : Bytes
  thisClass : UInt16

namespace Opening

structure Fits (opening : Opening) : Prop where
  versions : opening.versions.length = 4
  pool : opening.pool.Built
  flags : opening.flags.length = 2

def toBytes (opening : Opening) : Bytes :=
  Bytes.u32 magic ++ (opening.versions ++ (opening.pool.toBytes ++
    (opening.flags ++ Bytes.u16 opening.thisClass)))

def name (opening : Opening) : Except Error (Option String) := do
  return (← opening.pool.encodedClassName opening.thisClass).text?

end Opening

theorem readName_ok_iff : readName before = .ok found after ↔
    ∃ opening : Opening, opening.Fits ∧ opening.name = .ok found ∧
      Cursor.Passed opening.toBytes before after := by
  simp only [readName, run_bind_iff, run_pure_iff, StoredClass.readMagic_ok_iff, Scan.advance_ok_iff,
    Scan.lift_ok_iff, Opening.name, bind_ok_iff, pure_ok_iff]
  constructor
  · intro stated
    rcases stated with ⟨_, _, magic, _, _, ⟨versions, four, first⟩, pool, _, constants, _, _,
      ⟨flags, two, second⟩, thisClass, _, this, text, _, ⟨named, rfl⟩, rfl, rfl⟩
    obtain ⟨built, passed⟩ := Scan.pool_codec.sound _ _ _ constants
    have last := (Scan.u16_codec.sound _ _ _ this).2
    exact ⟨⟨versions, pool, flags, thisClass⟩, ⟨four, built, two⟩, ⟨text, named, rfl⟩,
      magic.trans (first.trans (passed.trans (second.trans last)))⟩
  · intro stated
    rcases stated with ⟨opening, ⟨four, built, two⟩, ⟨text, named, rfl⟩, passed⟩
    obtain ⟨_, magic, passed⟩ := passed.split
    obtain ⟨_, first, passed⟩ := passed.split
    obtain ⟨_, constants, passed⟩ := passed.split
    obtain ⟨_, second, this⟩ := passed.split
    exact ⟨(), _, magic, (), _, ⟨_, four, first⟩, _, _, Scan.pool_codec.read built constants, (), _,
      ⟨_, two, second⟩, _, _, Scan.u16_codec.read trivial this, text, _, ⟨named, rfl⟩, rfl, rfl⟩

theorem peekName_ok_iff {data : Bytes} : peekName data = .ok found ↔
    ∃ (opening : Opening) (rest : Bytes), opening.Fits ∧ opening.name = .ok found ∧
      data = opening.toBytes ++ rest := by
  unfold peekName
  rw [Scan.run_ok_iff]
  simp only [readName_ok_iff]
  constructor
  · intro stated
    rcases stated with ⟨after, opening, fits, named, passed⟩
    exact ⟨opening, after.rest, fits, named, passed.rest⟩
  · intro stated
    rcases stated with ⟨opening, rest, fits, named, rfl⟩
    exact ⟨⟨_, _, rest⟩, opening, fits, named, rfl, rfl, rfl⟩

theorem Opening.unique {first second : Opening} (one : first.Fits) (other : second.Fits)
    (same : first.toBytes ++ left = second.toBytes ++ right) : first = second := by
  obtain ⟨versions, pool, flags, thisClass⟩ := first
  obtain ⟨versions', pool', flags', thisClass'⟩ := second
  obtain ⟨four, built, two⟩ := one
  obtain ⟨four', built', two'⟩ := other
  simp only [Opening.toBytes, List.append_assoc] at same
  obtain ⟨_, afterMagic⟩ := Scan.u32_codec.unique trivial trivial same
  obtain ⟨rfl, afterVersions⟩ := (Scan.bytes_codec 4).unique four four' afterMagic
  obtain ⟨rfl, afterPool⟩ := Scan.pool_codec.unique built built' afterVersions
  obtain ⟨rfl, afterFlags⟩ := (Scan.bytes_codec 2).unique two two' afterPool
  obtain ⟨rfl, _⟩ := Scan.u16_codec.unique trivial trivial afterFlags
  rfl

def SameOpening (data other : Bytes) : Prop :=
  ∃ (opening : Opening) (rest ending : Bytes), opening.Fits ∧ data = opening.toBytes ++ rest ∧
    other = opening.toBytes ++ ending

theorem sameOpening_of_peekName (peeked : peekName data = .ok found) : SameOpening data data := by
  obtain ⟨opening, rest, fits, _, same⟩ := peekName_ok_iff.mp peeked
  exact ⟨opening, rest, rest, fits, same, same⟩

theorem peekName_of_sameOpening (same : SameOpening data other)
    (peeked : peekName data = .ok found) : peekName other = .ok found := by
  obtain ⟨opening, rest, ending, fits, rfl, rfl⟩ := same
  obtain ⟨_, _, before, named, agree⟩ := peekName_ok_iff.mp peeked
  obtain rfl := Opening.unique fits before agree
  exact peekName_ok_iff.mpr ⟨opening, ending, fits, named, rfl⟩

structure Peeks (data : Bytes) (file : ClassFile) : Prop where
  named : ∀ name, peekName data = .ok (some name) ↔ file.name = .ok name
  unnamed : peekName data = .ok none ↔ ∀ name, file.name ≠ .ok name

theorem peeks_of_parse (parsed : parse data = .ok file) : Peeks data file := by
  obtain ⟨text, encoded, peeked⟩ := peekName_of_parse parsed
  have named (name : String) : peekName data = .ok (some name) ↔ file.name = .ok name := by
    rw [ClassFile.name, Pool.className_ok_iff, peeked, encoded]
    simp
  refine ⟨named, ?_⟩
  simp only [ne_eq, ← named]
  rw [peeked]
  cases text.text? <;> simp

end ClassFile

namespace Session

-- A session does not look into a class without a readable name, nor into one that the filter
-- refuses.
inductive Declines (session : Session) (log : Log) : Option String → Log → Prop where
  | unnamed : Declines session log none (log.push .undecodableName)
  | refused (filtered : session.filter.selects name = false) : Declines session log (some name) log

theorem rewriteSelected_apply (session : Session) (file : ClassFile) (before : Log) :
    session.rewriteSelected file before =
      if (file.rename session.table).2.isEmpty then .ok (.unchanged (file.rename session.table).1) before
      else
        .ok (.rewritten (file.rename session.table).1 (file.rename session.table).2)
          (before.push (.rewrote ((file.rename session.table).1.name.toOption.getD "<unnamed>")
            (file.rename session.table).2)) := by
  unfold rewriteSelected
  dsimp only
  split
  · rfl
  · rfl

theorem rewriteSelected_total (session : Session) (file : ClassFile) (before : Log) :
    ∃ outcome after, session.rewriteSelected file before = .ok outcome after := by
  rw [rewriteSelected_apply]
  split
  · exact ⟨_, _, rfl⟩
  · exact ⟨_, _, rfl⟩

theorem rewriteSelected_ne_skipped {session : Session} (given : ClassFile) :
    session.rewriteSelected file before ≠ .ok (.skipped given) after := by
  rw [rewriteSelected_apply]
  split <;> simp

theorem rewriteBytes_skipped_iff {session : Session} :
    session.rewriteBytes data before = .ok (.skipped given) after ↔
      given = data ∧ ∃ peeked, ClassFile.peekName data = .ok peeked ∧
        session.Declines before peeked after := by
  simp only [rewriteBytes, run_bind_iff, Logging.lift_ok_iff]
  constructor
  · intro stated
    rcases stated with ⟨peeked, _, ⟨found, rfl⟩, ran⟩
    cases peeked with
    | none =>
      obtain ⟨_, _, recorded, ended⟩ := run_bind_iff.mp ran
      obtain ⟨same, rfl⟩ := run_pure_iff.mp ended
      cases same
      cases recorded
      exact ⟨rfl, none, found, .unnamed⟩
    | some name =>
      dsimp only at ran
      split at ran
      · simp only [run_bind_iff, Logging.lift_ok_iff] at ran
        obtain ⟨file, _, _, outcome, _, decided, ran⟩ := ran
        cases outcome with
        | skipped given => exact absurd decided (rewriteSelected_ne_skipped given)
        | unchanged => cases (run_pure_iff.mp ran).1
        | rewritten =>
          obtain ⟨_, _, _, ended⟩ := run_bind_iff.mp ran
          cases (run_pure_iff.mp ended).1
      · rename_i refused
        obtain ⟨same, rfl⟩ := run_pure_iff.mp ran
        cases same
        exact ⟨rfl, some name, found, .refused (Bool.eq_false_iff.mpr refused)⟩
  · intro stated
    rcases stated with ⟨rfl, peeked, found, declined⟩
    refine ⟨peeked, _, ⟨found, rfl⟩, ?_⟩
    cases declined with
    | unnamed => rfl
    | refused filtered =>
      dsimp only
      rw [filtered]
      rfl

-- The outcome for the bytes of a class follows the one for the class. Only a rewritten class is
-- written, and with it may fail.
structure Agrees (session : Session) (data : Bytes) (file : ClassFile) (before : Log) : Prop where
  total : ∃ outcome after, session.rewriteClass file before = .ok outcome after
  skipped : ∀ given middle, session.rewriteClass file before = .ok (.skipped given) middle →
    given = file ∧ ∃ after, session.rewriteBytes data before = .ok (.skipped data) after
  unchanged : ∀ given middle, session.rewriteClass file before = .ok (.unchanged given) middle →
    session.rewriteBytes data before = .ok (.unchanged data) middle
  rewritten : ∀ renamed stats middle,
    session.rewriteClass file before = .ok (.rewritten renamed stats) middle →
      session.rewriteBytes data before =
        match renamed.toBytes middle with
        | .ok written after => .ok (.rewritten written stats) after
        | .error error after => .error error after

theorem agrees_of_declined {session : Session}
    (skips : session.rewriteClass file before = .ok (.skipped file) middle)
    (peeked : ClassFile.peekName data = .ok found) (declined : session.Declines before found after) :
    session.Agrees data file before := by
  have ran := rewriteBytes_skipped_iff.mpr ⟨rfl, found, peeked, declined⟩
  refine ⟨⟨_, _, skips⟩, ?_, ?_, ?_⟩
  · intro given _ same
    rw [skips] at same
    cases same
    exact ⟨rfl, _, ran⟩
  · intro given _ same
    rw [skips] at same
    cases same
  · intro renamed stats _ same
    rw [skips] at same
    cases same

theorem selects_named {session : Session} (named : file.name = .ok name) (log : Log) :
    session.selects file log = .ok (session.filter.selects name) log := by
  unfold selects
  rw [named]
  rfl

theorem rewriteBytes_selected {session : Session} (parsed : ClassFile.parse data = .ok file)
    (named : file.name = .ok name) (selected : session.filter.selects name = true) (before : Log) :
    session.rewriteBytes data before =
      match session.rewriteSelected file before with
      | .ok (.skipped _) middle => .ok (.skipped data) middle
      | .ok (.unchanged _) middle => .ok (.unchanged data) middle
      | .ok (.rewritten renamed stats) middle =>
        match renamed.toBytes middle with
        | .ok written after => .ok (.rewritten written stats) after
        | .error error after => .error error after
      | .error error after => .error error after := by
  have peeked := ((ClassFile.peeks_of_parse parsed).named name).mpr named
  rw [rewriteBytes, peeked, parsed]
  simp only [Logging.lift, bind_apply, pure_apply, selected, if_true]
  rcases session.rewriteSelected file before with ⟨_ | _ | ⟨renamed, stats⟩, middle⟩ | ⟨error, after⟩
  · rfl
  · rfl
  · dsimp only
    rw [bind_apply]
    cases renamed.toBytes middle <;> rfl
  · rfl

theorem agrees_of_selected {session : Session} (parsed : ClassFile.parse data = .ok file)
    (named : file.name = .ok name) (selected : session.filter.selects name = true) (before : Log) :
    session.Agrees data file before := by
  have looked : session.rewriteClass file before = session.rewriteSelected file before := by
    rw [rewriteClass, bind_apply, selects_named named]
    dsimp only
    rw [if_pos selected]
  have opened := rewriteBytes_selected parsed named selected before
  rw [← looked] at opened
  refine ⟨?_, ?_, ?_, ?_⟩
  · rw [looked]
    exact rewriteSelected_total session file before
  · intro given middle same
    rw [looked] at same
    exact absurd same (rewriteSelected_ne_skipped given)
  · intro given middle same
    rw [opened, same]
  · intro renamed stats middle same
    rw [opened, same]

theorem agrees_of_parse (session : Session) (parsed : ClassFile.parse data = .ok file)
    (before : Log) : session.Agrees data file before := by
  have peeks := ClassFile.peeks_of_parse parsed
  cases named : file.name with
  | error error =>
    have skips : session.rewriteClass file before =
        .ok (.skipped file) (before.push (.unresolvableName error)) := by
      unfold rewriteClass selects
      rw [named]
      rfl
    refine agrees_of_declined skips (peeks.unnamed.mpr ?_) .unnamed
    intro name same
    rw [named] at same
    cases same
  | ok name =>
    by_cases selected : session.filter.selects name = true
    · exact agrees_of_selected parsed named selected before
    · have refused := Bool.eq_false_iff.mpr selected
      have skips : session.rewriteClass file before = .ok (.skipped file) before := by
        rw [rewriteClass, bind_apply, selects_named named]
        dsimp only
        rw [refused]
        rfl
      exact agrees_of_declined skips ((peeks.named name).mpr named) (.refused refused)

-- The bytes path and the parsed path agree on every class that can be parsed, and bytes that begin
-- as skipped ones do are skipped, whatever follows.
theorem rewriteBytes_agrees (session : Session) :
    (∀ data file, ClassFile.parse data = .ok file →
      ClassFile.Peeks data file ∧ ∀ log, session.Agrees data file log) ∧
    (∀ data log given after, session.rewriteBytes data log = .ok (.skipped given) after →
      given = data ∧ ClassFile.SameOpening data data ∧
        ∀ other, ClassFile.SameOpening data other →
          session.rewriteBytes other log = .ok (.skipped other) after) := by
  constructor
  · intro data file parsed
    exact ⟨ClassFile.peeks_of_parse parsed, agrees_of_parse session parsed⟩
  · intro data log given after ran
    obtain ⟨rfl, peeked, found, declined⟩ := rewriteBytes_skipped_iff.mp ran
    refine ⟨rfl, ClassFile.sameOpening_of_peekName found, fun other same => ?_⟩
    have again := ClassFile.peekName_of_sameOpening same found
    exact rewriteBytes_skipped_iff.mpr ⟨rfl, peeked, again, declined⟩

open ClassFile (mirrorPool mirrorStored mirrorTable mirrorPool_built mirror_parsed)

theorem mirror_agrees : ∃ data file cut, ClassFile.parse data = .ok file ∧
    ClassFile.Peeks data file ∧
    (∀ log, (ofTable mirrorTable (.startingWith "B")).Agrees data file log) ∧
    (ofTable mirrorTable (.startingWith "B")).rewriteBytes data #[] = .ok (.skipped data) #[] ∧
    (ClassFile.parse cut).toOption.isNone = true ∧
    (ofTable mirrorTable (.startingWith "B")).rewriteBytes cut #[] = .ok (.skipped cut) #[] := by
  let opening : ClassFile.Opening := ⟨[0, 0, 0, 52], mirrorPool, [0, 0x21], 2⟩
  have peeked : ClassFile.peekName (mirrorStored mirrorPool 2).toBytes = .ok (some "A") := by
    decide +kernel
  have refused : (ofTable mirrorTable (.startingWith "B")).filter.selects "A" = false := by
    decide
  have skips : (ofTable mirrorTable (.startingWith "B")).rewriteBytes
      (mirrorStored mirrorPool 2).toBytes #[] =
        .ok (.skipped (mirrorStored mirrorPool 2).toBytes) #[] :=
    rewriteBytes_skipped_iff.mpr ⟨rfl, _, peeked, .refused refused⟩
  have same : ClassFile.SameOpening (mirrorStored mirrorPool 2).toBytes opening.toBytes :=
    ⟨opening, (mirrorStored mirrorPool 2).toBytes.drop opening.toBytes.length, [],
      ⟨rfl, mirrorPool_built, rfl⟩, by decide +kernel, by decide +kernel⟩
  obtain ⟨parsed, skipped⟩ := rewriteBytes_agrees (ofTable mirrorTable (.startingWith "B"))
  obtain ⟨peeks, agrees⟩ := parsed _ _ mirror_parsed
  obtain ⟨_, _, others⟩ := skipped _ _ _ _ skips
  exact ⟨_, _, opening.toBytes, mirror_parsed, peeks, agrees, skips, by decide +kernel, others _ same⟩

end Session
end ClassRename
