import Mathlib.Algebra.BigOperators.Group.List.Basic
import ClassRename.Proofs.Command.Running
import ClassRename.Proofs.Rename.Counting

namespace ClassRename
open Effects

def Method.bodies (method : Method) : List Code := method.attributes.filterMap MethodAttribute.code?

theorem Method.code?_eq_head? (method : Method) : method.code? = method.bodies.head? :=
  List.head?_filterMap.symm

namespace ClassFile

def listed (file : ClassFile) : List Instruction := file.bodies.flatMap (·.2.instructions)

def unlisted (file : ClassFile) : List Instruction :=
  file.methods.flatMap fun method => (method.bodies.drop 1).flatMap (·.instructions)

theorem replacements_instructions (table : RenameTable) (file : ClassFile) :
    Body.replacements table file.instructions =
      Body.replacements table file.listed + Body.replacements table file.unlisted := by
  unfold instructions allBodies listed bodies unlisted
  induction file.methods with
  | nil => rfl
  | cons method rest ih =>
    have first := method.code?_eq_head?
    rw [List.flatMap_cons, List.flatMap_append, List.flatMap_cons, Body.replacements_append,
      Body.replacements_append, ih]
    change Body.replacements table (method.bodies.flatMap (·.instructions)) + _ = _
    cases found : method.bodies with
    | nil =>
      rw [found] at first
      rw [List.filterMap_cons_none (by rw [first]; rfl)]
      simp only [List.drop_nil, List.flatMap_nil]
      exact Nat.add_left_comm _ _ _
    | cons body others =>
      rw [found] at first
      rw [List.filterMap_cons_some (by rw [first]; rfl), List.flatMap_cons, List.flatMap_cons,
        Body.replacements_append, Body.replacements_append]
      simp only [List.drop_succ_cons, List.drop_zero]
      omega

structure Regular (file : ClassFile) : Prop where
  named : ∃ name, file.name = .ok name
  single : ∀ method ∈ file.methods, method.bodies.length ≤ 1

theorem Regular.unlisted_eq {file : ClassFile} (regular : file.Regular) : file.unlisted = [] := by
  apply List.flatMap_eq_nil_iff.mpr
  intro method member
  rw [List.drop_eq_nil_of_le (regular.single method member)]
  rfl

theorem Regular.listed_eq {file : ClassFile} (regular : file.Regular) (table : RenameTable) :
    Body.replacements table file.listed = file.renamedIn table := by
  obtain ⟨name, named⟩ := regular.named
  rw [renamedIn, named, if_pos (by rfl), replacements_instructions, regular.unlisted_eq]
  rfl

def overlooked (table : RenameTable) (file : ClassFile) : Nat :=
  if file.name.isOk then Body.replacements table file.unlisted else 0

def untouched (table : RenameTable) (file : ClassFile) : Nat :=
  if file.name.isOk then 0 else Body.replacements table file.listed

theorem listed_add_overlooked (table : RenameTable) (file : ClassFile) :
    Body.replacements table file.listed + file.overlooked table =
      file.renamedIn table + file.untouched table := by
  unfold overlooked renamedIn untouched
  split
  · rw [replacements_instructions]
    rfl
  · exact Nat.add_comm _ _

end ClassFile

namespace Reference

theorem renamed_ofInstruction (table : RenameTable) (instructions : List Instruction)
    (className method : String) :
    ((instructions.mapIdx (ofInstruction table className method)).filterMap id).countP
      (·.renamedTo.isSome) = Body.replacements table instructions := by
  rw [List.countP_filterMap, List.mapIdx_eq_zipIdx_map, List.countP_map, Body.replacements]
  conv_rhs => rw [← List.zipIdx_map_fst 0 instructions, List.countP_map]
  apply List.countP_congr
  rintro ⟨instruction, position⟩ _
  rw [Function.comp_apply, Function.comp_apply, Instruction.renamed?_isSome]
  unfold ofInstruction
  dsimp only
  cases instruction.referencedClass? <;> rfl

theorem renamed_ofClass (table : RenameTable) (className : String) (file : ClassFile) :
    (ofClass table className file).countP (·.renamedTo.isSome) =
      Body.replacements table file.listed := by
  rw [ofClass, List.countP_flatMap, ClassFile.listed, Body.replacements, List.countP_flatMap]
  congr 1
  apply List.map_congr_left
  intro entry _
  exact renamed_ofInstruction table entry.2.instructions className _

end Reference

theorem RefsReport.renamed_ofReferences (classes : Nat) (renamedOnly : Bool)
    (found : List (List Reference)) :
    (ofReferences classes renamedOnly found.flatten).renamed =
      (found.map (List.countP (·.renamedTo.isSome))).sum := by
  rw [ofReferences, ← List.countP_eq_length_filter, List.countP_flatten]

namespace Tally

theorem substitutions_changed (output : Labelled (Outcome Bytes)) :
    output.content.stats.substitutions = ((changed output).map (·.2.substitutions)).getD 0 := by
  obtain ⟨name, outcome⟩ := output
  cases outcome <;> rfl

theorem foldl_changed (start : Stats) (outputs : List (Labelled (Outcome Bytes))) :
    (((outputs.filterMap changed).map Prod.snd).foldl Stats.add start).substitutions =
      start.substitutions + (outputs.map (·.content.stats.substitutions)).sum := by
  induction outputs generalizing start with
  | nil => rfl
  | cons output rest ih =>
    rw [List.map_cons, List.sum_cons, substitutions_changed]
    cases found : changed output with
    | none =>
      rw [List.filterMap_cons_none found, ih]
      exact congrArg (start.substitutions + ·) (Nat.zero_add _).symm
    | some counted =>
      rw [List.filterMap_cons_some found, List.map_cons, List.foldl_cons, ih, Stats.substitutions_add,
        Nat.add_assoc]
      rfl

theorem substitutions_ofOutputs (outputs : List (Labelled (Outcome Bytes))) :
    (ofOutputs outputs).totals.substitutions =
      (outputs.map (·.content.stats.substitutions)).sum :=
  (foldl_changed .zero outputs).trans (Nat.zero_add _)

end Tally

-- What both commands read before they go different ways: the table, and the classes of the input.
structure World.Offers (world : World) (input path : String) (table : RenameTable)
    (files : List ClassFile) : Prop where
  table : ∃ log, TableSource.loadFile world.files.read path world.log = .ok table log
  classes : ∃ found, Input.Found world.files input found ∧
    List.Forall₂ (fun item file => ClassFile.parse item.content = .ok file) found.classes files

theorem RefsRequest.run_counts {request : RefsRequest} (given : request.table = some path)
    (ran : request.run world = .ok report after) :
    ∃ table files, world.Offers request.input path table files ∧
      report.renamed = (files.map fun file => Body.replacements table file.listed).sum := by
  obtain ⟨table, input, found, loaded, offered, listed, rfl⟩ := run_ok_iff.mp ran
  obtain ⟨log, read, rfl⟩ := (loadTable_ok_iff given).mp loaded
  have each : List.Forall₂ (fun item references => ∃ file, ClassFile.parse item.content = .ok file ∧
      Body.replacements table file.listed = references.countP (·.renamedTo.isSome))
      input.classes found := by
    apply listed.imp
    rintro item _ ⟨file, name, parsed, _, rfl⟩
    exact ⟨file, parsed, (Reference.renamed_ofClass table name.lossy file).symm⟩
  obtain ⟨files, parsed, counted⟩ := forall₂_choose each
  refine ⟨table, files, ⟨⟨log, read⟩, input, offered, parsed⟩, ?_⟩
  rw [RefsReport.renamed_ofReferences, map_eq_of_forall₂ counted]

-- A rewrite may give up where the listing does not, as it also has to write the classes.
theorem RewriteRequest.run_counts {request : RewriteRequest} {table : RenameTable}
    (all : request.filter = .all)
    (offers : world.Offers request.input request.table table files)
    (ran : request.run world = .ok result after) :
    result.tally.totals.substitutions = (files.map (ClassFile.renamedIn table)).sum := by
  obtain ⟨⟨_, loaded⟩, input, found, parsed⟩ := offers
  obtain ⟨table', _, input', outputs, log, written, loaded', found', rewrote, _, rfl⟩ :=
    run_ok_iff.mp ran
  obtain rfl := found.unique found'
  rw [loaded] at loaded'
  cases loaded'
  have unfiltered : (request.session table).filter = .all := all
  have each := Session.rewriteBatch_each rewrote
  have counted : List.Forall₂ (fun file output =>
      output.content.stats.substitutions = file.renamedIn table) files outputs := by
    apply forall₂_trans _ parsed.flip each
    rintro file item output parsed ⟨_, _, _, rewrote⟩
    apply Session.rewriteBytes_substitutions unfiltered parsed rewrote
  rw [report, Tally.substitutions_ofOutputs, map_eq_of_forall₂ counted]

-- The renamed references of a listing and the substitutions of a rewrite differ by what either
-- passes over, and agree on classes that have a readable name and no method with two bodies.
theorem RefsRequest.run_foretells {refs : RefsRequest} {rewrite : RewriteRequest}
    (sameInput : rewrite.input = refs.input) (sameTable : refs.table = some rewrite.table)
    (all : rewrite.filter = .all) (listed : refs.run world = .ok report seen)
    (rewrote : rewrite.run world = .ok result after) :
    ∃ table files, world.Offers refs.input rewrite.table table files ∧
      report.renamed + (files.map (ClassFile.overlooked table)).sum =
        result.tally.totals.substitutions + (files.map (ClassFile.untouched table)).sum ∧
      ((∀ file ∈ files, file.Regular) → report.renamed = result.tally.totals.substitutions) := by
  obtain ⟨table, files, offers, renamed⟩ := run_counts sameTable listed
  have replaced := RewriteRequest.run_counts all (sameInput ▸ offers) rewrote
  have accounts : report.renamed + (files.map (ClassFile.overlooked table)).sum =
      result.tally.totals.substitutions + (files.map (ClassFile.untouched table)).sum := by
    rw [renamed, replaced, ← List.sum_map_add, ← List.sum_map_add]
    simp only [ClassFile.listed_add_overlooked]
  refine ⟨table, files, offers, accounts, fun regular => ?_⟩
  rw [renamed, replaced]
  apply congrArg List.sum
  apply List.map_congr_left
  intro file member
  exact (regular file member).listed_eq table

open ClassFile (mirror mirrorPool mirrorGrown mirrorStored mirrorCode mirrorTable mirrorRenamed
  mirrorInstructions mirror_parsed mirror_written mirror_rename mirrorTable_known
  mirrorPool_built mirrorBody_written mirrorInstructions_rename mirrorInstructions_renameStats)

def tableText : Bytes := [0x7B, 0x22, 0x41, 0x22, 0x3A, 0x22, 0x42, 0x22, 0x7D]

def World.pair (data : Bytes) : World :=
  ⟨(FileTree.empty.insert ["A"] (.file data)).insert ["t"] (.file tableText), #[]⟩

def pairListing : RefsRequest := ⟨"A", some "t", false⟩

def pairTrial : RewriteRequest := ⟨"A", "t", none, .all, true, false⟩

theorem Path.pieces_letter (letter : name = "A" ∨ name = "t") : Path.pieces name = [name] := by
  rcases letter with rfl | rfl
  all_goals
    rw [Path.pieces, String.splitOn, if_neg (by decide), String.splitOnAux, if_neg (by decide +kernel),
      if_neg (by decide +kernel), String.splitOnAux, if_pos (by decide +kernel)]
    decide +kernel

theorem FileTree.locate_letter (letter : name = "A" ∨ name = "t") (tree : FileTree) :
    tree.locate name = .ok [name] := by
  have relative : start name = [] := by
    rcases letter with rfl | rfl <;> decide +kernel
  rw [locate, Path.pieces_letter letter, relative]
  rcases letter with rfl | rfl <;> rfl

theorem FileTree.read_letter {tree : FileTree} (letter : name = "A" ∨ name = "t")
    (stored : tree.nodes[[name]]? = some (.file content)) : tree.read name = .ok content := by
  have plain : isAlwaysThere [name] = false := by
    rcases letter with rfl | rfl <;> rfl
  rw [read, locate_letter letter]
  simp [bind, Except.bind, node?, plain, stored]

theorem RenameTable.members_single (key : String) (value : Json) :
    members [(key, value)] = [(key, value)] := by
  have single : ((∅ : Std.HashMap String Json).insert key value).toList = [(key, value)] := by
    refine List.perm_singleton.mp (Std.HashMap.toList_insert_perm.trans ?_)
    simp
  rw [members]
  simp only [List.foldl_cons, List.foldl_nil, single, sorted, List.mergeSort_singleton]

theorem tableText_ofJson (log : Log) :
    RenameTable.ofJson (String.ofList (Utf8.decodeLossy tableText)) "t" log = .ok mirrorTable log := by
  have text : String.ofList (Utf8.decodeLossy tableText) = "\x7b\"A\":\"B\"\x7d" := by
    decide +kernel
  have parsed : Json.parse? "\x7b\"A\":\"B\"\x7d" = some (.object [("A", .string "B")]) := rfl
  have plain : RenameTable.looksDotted "A" = false := by
    simp [RenameTable.looksDotted]
  rw [RenameTable.ofJson, text, parsed]
  dsimp only
  rw [RenameTable.members_single, List.mapM_cons, RenameTable.checkMember, plain]
  rfl

theorem pair_table (data : Bytes) :
    TableSource.loadFile (World.pair data).files.read "t" #[] = .ok mirrorTable #[.loaded 1 "t"] := by
  have content : (World.pair data).files.read "t" = .ok tableText :=
    FileTree.read_letter (.inr rfl) Std.HashMap.getElem?_insert_self
  have valid : Utf8.fault? tableText = none := by
    decide +kernel
  have sized : mirrorTable.size = 1 := by
    simp [mirrorTable, RenameTable.size, RenameTable.ofList, Std.HashMap.size_insert]
  unfold TableSource.loadFile
  rw [content]
  dsimp only
  rw [valid]
  dsimp only
  rw [bind_apply, tableText_ofJson]
  dsimp only
  rw [sized]
  rfl

theorem pair_found (data : Bytes) :
    Input.Found (World.pair data).files "A" (.single (Path.shown "A") data) := by
  have stored : (World.pair data).files.nodes[["A"]]? = some (.file data) := by
    refine (Std.HashMap.getElem?_insert).trans ?_
    rw [if_neg (by decide)]
    exact Std.HashMap.getElem?_insert_self
  refine .single ?_ (FileTree.read_letter (.inl rfl) stored) ?_
  · rw [FileTree.isDirectory, FileTree.locate_letter (.inl rfl)]
    simp [FileTree.node?, FileTree.isAlwaysThere, stored]
  · rw [Input.isArchivePath, Path.extension?, Path.fileName?, Path.components,
      Path.pieces_letter (.inl rfl)]
    decide +kernel

theorem pair_listed (parsed : ClassFile.parse data = .ok file) :
    ∃ report seen, pairListing.run (World.pair data) = .ok report seen ∧
      report.renamed = Body.replacements mirrorTable file.listed := by
  obtain ⟨name, named, _⟩ := ClassFile.peekName_of_parse parsed
  have loaded : pairListing.loadTable (World.pair data) =
      .ok mirrorTable ⟨(World.pair data).files, #[.loaded 1 "t"]⟩ :=
    (RefsRequest.loadTable_ok_iff rfl).mpr ⟨_, pair_table data, rfl⟩
  have ran : pairListing.run (World.pair data) =
      .ok (.ofReferences 1 false [Reference.ofClass mirrorTable name.lossy file].flatten)
        ⟨(World.pair data).files, #[.loaded 1 "t"]⟩ :=
    RefsRequest.run_ok_iff.mpr ⟨mirrorTable, _, _, loaded, pair_found data,
      .cons ⟨file, name, parsed, named, rfl⟩ .nil, rfl⟩
  refine ⟨_, _, ran, ?_⟩
  rw [RefsReport.renamed_ofReferences, List.map_singleton, List.sum_singleton,
    Reference.renamed_ofClass]

theorem pair_rewritten
    (rewrote : (pairTrial.session mirrorTable).rewriteBytes data #[.loaded 1 "t"] = .ok outcome told) :
    ∃ result after, pairTrial.run (World.pair data) = .ok result after ∧
      result.tally.totals.substitutions = outcome.stats.substitutions := by
  have batch : (pairTrial.session mirrorTable).rewriteBatch [⟨Path.shown "A", data⟩] #[.loaded 1 "t"] =
      .ok [⟨Path.shown "A", outcome⟩] told := by
    rw [Session.rewriteBatch, List.mapM_cons, bind_apply, Session.rewriteLabelled, rewrote]
    rfl
  have ran : pairTrial.run (World.pair data) =
      .ok (pairTrial.report mirrorTable 0 [⟨Path.shown "A", outcome⟩]) ⟨(World.pair data).files, told⟩ :=
    RewriteRequest.run_ok_iff.mpr ⟨mirrorTable, _, _, _, _, 0, pair_table data, pair_found data, batch,
      rfl, rfl⟩
  refine ⟨_, _, ran, ?_⟩
  rw [RewriteRequest.report, Tally.substitutions_ofOutputs]
  exact Nat.add_zero _

theorem pair_renamed (parsed : ClassFile.parse data = .ok file)
    (peeked : ClassFile.peekName data = .ok (some name))
    (renames : file.rename mirrorTable = (renamed, stats)) (some : stats.isEmpty = false)
    (wrote : ∀ log, renamed.toBytes log = .ok written log) :
    ∃ result after, pairTrial.run (World.pair data) = .ok result after ∧
      result.tally.totals.substitutions = stats.substitutions := by
  exact pair_rewritten
    (Session.rewriteBytes_renames parsed peeked rfl renames some wrote #[.loaded 1 "t"])

theorem mirrorInstructions_replacements : Body.replacements mirrorTable mirrorInstructions = 1 := by
  have kept : Instruction.renamed? mirrorTable (.simple 0xB1) = none := rfl
  simp [mirrorInstructions, Body.replacements, ClassFile.mirror_renamed? mirrorTable_known, kept]

theorem mirror_foretold : ∃ world report seen result after table files,
    pairListing.run world = .ok report seen ∧ pairTrial.run world = .ok result after ∧
    report.renamed = 1 ∧ world.Offers "A" "t" table files ∧
    report.renamed + (files.map (ClassFile.overlooked table)).sum =
      result.tally.totals.substitutions + (files.map (ClassFile.untouched table)).sum ∧
    ((∀ file ∈ files, file.Regular) → report.renamed = result.tally.totals.substitutions) := by
  have peeked : ClassFile.peekName (mirrorStored mirrorPool 2).toBytes = .ok (some "A") := by
    decide +kernel
  obtain ⟨report, seen, listed, renamed⟩ := pair_listed mirror_parsed
  obtain ⟨result, after, rewrote, _⟩ :=
    pair_renamed mirror_parsed peeked mirror_rename rfl mirror_written
  obtain ⟨table, files, offers, accounts, equal⟩ :=
    RefsRequest.run_foretells rfl rfl rfl listed rewrote
  have whole : (mirror ⟨Opcode.ldc, .type "A", some 2⟩).listed = mirrorInstructions := rfl
  rw [whole, mirrorInstructions_replacements] at renamed
  exact ⟨_, report, seen, result, after, table, files, listed, rewrote, renamed, offers, accounts,
    equal⟩

def doubled (instructions : List Instruction) : ClassFile :=
  { mirror ⟨Opcode.ldc, .type "A", some 2⟩ with
    methods := [⟨1, "A", "()V",
      [.code ⟨some 3, 1, 0, [.simple 0xB1], [], [], some #[0, 1]⟩,
        .code ⟨some 3, 1, 0, instructions, [], [], some #[0, 2, 3]⟩], some 1, some 4⟩] }

def returningCode : StoredCode := ⟨1, 0, [0xB1], [], []⟩

def doubledStored : StoredClass :=
  (doubled mirrorInstructions).storedWith mirrorPool
    [⟨1, 1, 4, [⟨3, returningCode.toBytes⟩, ⟨3, (mirrorCode 2).toBytes⟩]⟩]

theorem doubled_parsed : ClassFile.parse doubledStored.toBytes = .ok (doubled mirrorInstructions) := by
  have fits : doubledStored.Fits := by
    refine ⟨mirrorPool_built, by decide, ⟨by decide, ?_⟩, ⟨by decide, ?_⟩, by decide, ?_⟩
    · exact List.forall_mem_nil _
    · exact List.forall_mem_singleton.mpr ⟨by decide, by decide⟩
    · exact List.forall_mem_nil _
  have first : MethodAttribute.Resolved mirrorPool ⟨3, returningCode.toBytes⟩
      (.code (returningCode.withBody 3 ⟨[.simple 0xB1], #[0, 1]⟩)) := .code rfl rfl rfl
  have second : MethodAttribute.Resolved mirrorPool ⟨3, (mirrorCode 2).toBytes⟩
      (.code ((mirrorCode 2).withBody 3 ⟨mirrorInstructions, #[0, 2, 3]⟩)) := .code rfl rfl rfl
  refine ClassFile.parse_ok_iff.mpr ⟨_, StoredClass.parse_ok_iff.mpr ⟨rfl, fits⟩, ?_⟩
  refine ⟨rfl, rfl, rfl, rfl, rfl, rfl, rfl, rfl, rfl, ⟨_, rfl⟩, .cons ?_ .nil⟩
  exact ⟨rfl, rfl, rfl, ⟨_, rfl, rfl⟩, ⟨_, rfl, rfl⟩, .cons first (.cons second .nil)⟩

theorem doubled_rename :
    (doubled mirrorInstructions).rename mirrorTable = (doubled mirrorRenamed, ⟨1, 0, 0, 1⟩) := by
  have kept : Body.rename mirrorTable [.simple 0xB1] = [.simple 0xB1] := rfl
  rw [ClassFile.rename_eq]
  refine Prod.ext ?_ ?_
  · simp only [doubled, List.map_cons, List.map_nil, Method.rename, MethodAttribute.rename, Code.rename,
      kept, mirrorInstructions_rename mirrorTable_known]
  · exact congrArg (Stats.add (Stats.add .zero .zero)) (mirrorInstructions_renameStats mirrorTable_known)

theorem doubled_written : ∃ written, ∀ log, (doubled mirrorRenamed).toBytes log = .ok written log := by
  refine ⟨((doubled mirrorRenamed).storedWith mirrorGrown
    [⟨1, 1, 4, [⟨3, returningCode.toBytes⟩, ⟨3, (mirrorCode 6).toBytes⟩]⟩]).toBytes, fun log => ?_⟩
  have encoded : Body.encode [.simple 0xB1] mirrorPool =
      .ok ⟨returningCode.code, #[0, 1]⟩ mirrorPool :=
    Body.encode_ok_iff.mpr ⟨[.fixed [0xB1]], rfl, by decide +kernel⟩
  have first : Code.toBytes ⟨some 3, 1, 0, [.simple 0xB1], [], [], some #[0, 1]⟩ ⟨mirrorPool, log⟩ =
      .ok (Attribute.toBytes ⟨3, returningCode.toBytes⟩) ⟨mirrorPool, log⟩ := by
    simp only [Code.toBytes, run_bind_iff, Writing.intern_ok_iff]
    exact ⟨3, _, ⟨mirrorPool, rfl, rfl⟩, _, _, ⟨mirrorPool, encoded, rfl⟩, rfl⟩
  have method : Method.toBytes ⟨1, "A", "()V",
      [.code ⟨some 3, 1, 0, [.simple 0xB1], [], [], some #[0, 1]⟩,
        .code ⟨some 3, 1, 0, mirrorRenamed, [], [], some #[0, 2, 3]⟩], some 1, some 4⟩
        ⟨mirrorPool, log⟩ =
      .ok (Field.toBytes ⟨1, 1, 4, [⟨3, returningCode.toBytes⟩, ⟨3, (mirrorCode 6).toBytes⟩]⟩)
        ⟨mirrorGrown, log⟩ := by
    simp only [Method.toBytes, run_bind_iff, Writing.intern_ok_iff]
    refine ⟨1, _, ⟨mirrorPool, rfl, rfl⟩, 4, _, ⟨mirrorPool, rfl, rfl⟩,
      [Attribute.toBytes ⟨3, returningCode.toBytes⟩, Attribute.toBytes ⟨3, (mirrorCode 6).toBytes⟩],
      ⟨mirrorGrown, log⟩, ?_, rfl⟩
    rw [List.mapM_cons, bind_apply, MethodAttribute.toBytes, first]
    dsimp only
    rw [bind_apply, List.mapM_cons, bind_apply, MethodAttribute.toBytes, mirrorBody_written]
    rfl
  refine ClassFile.toBytes_of_methods ?_
  change [_].mapM Method.toBytes ⟨mirrorPool, log⟩ = _
  rw [List.mapM_cons, bind_apply, method]
  rfl

def namelessStored : StoredClass :=
  { mirrorStored ((mirrorPool.append (.utf8 ⟨[0xED, 0xA0, 0x80]⟩)).append (.classRef 5)) 2 with
    thisClass := 6 }

-- A listing misses the second body, and marks what is in a class that is skipped.
theorem doubled_unforetold :
    (∃ world report seen result after, pairListing.run world = .ok report seen ∧
      pairTrial.run world = .ok result after ∧ report.renamed = 0 ∧
      result.tally.totals.substitutions = 1) ∧
    ∃ world report seen result after, pairListing.run world = .ok report seen ∧
      pairTrial.run world = .ok result after ∧ report.renamed = 1 ∧
      result.tally.totals.substitutions = 0 := by
  constructor
  · have peeked : ClassFile.peekName doubledStored.toBytes = .ok (some "A") := by
      decide +kernel
    obtain ⟨written, wrote⟩ := doubled_written
    obtain ⟨report, seen, listed, renamed⟩ := pair_listed doubled_parsed
    obtain ⟨result, after, rewrote, replaced⟩ :=
      pair_renamed doubled_parsed peeked doubled_rename rfl wrote
    have first : (doubled mirrorInstructions).listed = [.simple 0xB1] := rfl
    rw [first] at renamed
    exact ⟨_, report, seen, result, after, listed, rewrote, renamed, replaced⟩
  · have peeked : ClassFile.peekName namelessStored.toBytes = .ok none := by
      decide +kernel
    have instructions : (ClassFile.parse namelessStored.toBytes).toOption.map ClassFile.listed =
        some mirrorInstructions := by
      decide +kernel
    obtain ⟨file, accepted, whole⟩ := Option.map_eq_some_iff.mp instructions
    have skipped : (pairTrial.session mirrorTable).rewriteBytes namelessStored.toBytes
        #[.loaded 1 "t"] =
          .ok (.skipped namelessStored.toBytes) #[.loaded 1 "t", .undecodableName] :=
      Session.rewriteBytes_skipped_iff.mpr ⟨rfl, none, peeked, .unnamed⟩
    obtain ⟨report, seen, listed, renamed⟩ := pair_listed (toOption_some_iff.mp accepted)
    obtain ⟨result, after, rewrote, replaced⟩ := pair_rewritten skipped
    rw [whole, mirrorInstructions_replacements] at renamed
    exact ⟨_, report, seen, result, after, listed, rewrote, renamed, replaced⟩

end ClassRename
