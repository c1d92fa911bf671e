import ClassRename.Proofs.ClassFile.Parsing
import ClassRename.Proofs.Pool.Requests

namespace ClassRename
open Effects

namespace Writing

theorem intern_ok_iff {action : Interning α} {before after : Workspace} :
    intern action before = .ok value after ↔
      ∃ later, action before.pool = .ok value later ∧ after = ⟨later, before.log⟩ := by
  obtain ⟨pool, log⟩ := before
  cases found : action pool with
  | error error later => simp [intern, found]
  | ok given later =>
    simp only [intern, found]
    constructor
    · intro same
      cases same
      exact ⟨_, rfl, rfl⟩
    · intro stated
      rcases stated with ⟨_, same, rfl⟩
      cases same
      rfl

theorem logging_ok_iff {action : Logging α} {before after : Workspace} :
    logging action before = .ok value after ↔
      ∃ log, action before.log = .ok value log ∧ after = ⟨before.pool, log⟩ := by
  obtain ⟨pool, log⟩ := before
  cases found : action log with
  | error error later => simp [logging, found]
  | ok given later =>
    simp only [logging, found]
    constructor
    · intro same
      cases same
      exact ⟨_, rfl, rfl⟩
    · intro stated
      rcases stated with ⟨_, same, rfl⟩
      cases same
      rfl

theorem mapM_sound {α β : Type} (Ready : Pool → α → Prop) (Written : Pool → α → β → Prop)
    {action : α → Writing Bytes} {spell : β → Bytes} {items : List α} {before after : Workspace}
    (ran : items.mapM action before = .ok written after) (sound : before.pool.Sound)
    (prepared : ∀ item ∈ items, Ready before.pool item)
    (ready : ∀ earlier later item, Pool.Extends earlier later → Ready earlier item → Ready later item)
    (kept : ∀ earlier later item stored, Pool.Extends earlier later → Written earlier item stored →
      Written later item stored)
    (step : ∀ item before bytes after, Pool.Sound before.pool → Ready before.pool item →
      action item before = .ok bytes after → Pool.Grown before.pool after.pool ∧
        ∃ stored, bytes = spell stored ∧ Written after.pool item stored) :
    before.pool.Grown after.pool ∧ ∃ stored, written = stored.map spell ∧
      List.Forall₂ (Written after.pool) items stored := by
  obtain ⟨_, grown, related⟩ := mapM_run (fun state : Workspace => state.pool.Sound)
    (fun earlier later : Workspace => Pool.Grown earlier.pool later.pool)
    (fun item (state : Workspace) => Ready state.pool item)
    (fun item bytes (state : Workspace) => ∃ stored,
      Written state.pool item stored ∧ bytes = spell stored ∧ True)
    (fun _ => .refl) (fun _ _ _ => Pool.Grown.trans)
    (fun _ _ _ known grown => ready _ _ _ grown.extends known)
    (fun _ _ _ _ ⟨stored, written, same⟩ grown =>
      ⟨stored, kept _ _ _ _ grown.extends written, same⟩)
    (fun _ _ _ _ sound known ran => by
      obtain ⟨grown, stored, same, written⟩ := step _ _ _ _ sound known ran
      exact ⟨grown.sound sound, grown, stored, written, same, trivial⟩)
    sound prepared ran
  obtain ⟨stored, all, images⟩ := forall₂_choose related
  exact ⟨grown, stored, (forall₂_image_iff.mp images).1, all⟩

def Still (pool : Pool) (action : Writing Bytes) (bytes : Bytes) : Prop :=
  ∀ log, action ⟨pool, log⟩ = .ok bytes ⟨pool, log⟩

theorem still_mapM {α β : Type} {action : α → Writing Bytes} {spell : β → Bytes}
    {items : List α} {entries : List β}
    (still : List.Forall₂ (fun stored item => Still pool (action item) (spell stored)) entries items)
    (log : Log) : items.mapM action ⟨pool, log⟩ = .ok (entries.map spell) ⟨pool, log⟩ := by
  refine mapM_still (List.forall₂_map_right_iff.mpr ?_)
  exact (still.imp fun _ _ one => one log).flip

end Writing

theorem Logging.lift_ok_iff {result : Except Error α} {before after : Log} :
    Logging.lift result before = .ok value after ↔ result = .ok value ∧ before = after := by
  cases result with
  | error error =>
    constructor
    · intro lifted
      cases lifted
    · intro stated
      rcases stated with ⟨impossible, _⟩
      cases impossible
  | ok given => simp [Logging.lift]

namespace Code

-- A body that can be written from a pool: its attribute has its name there, and every
-- instruction has a place in the format.
structure WellFormed (pool : Pool) (code : Code) : Prop where
  named : ∃ index, code.name = some index ∧ pool.text index = .ok attributeName
  nonempty : code.instructions ≠ []
  instructions : ∀ instruction ∈ code.instructions, instruction.WellFormed pool
  counted : ∀ instruction ∈ code.instructions, instruction.counted = instruction
  handlers : code.handlers.length < 65536
  attributes : code.attributes.length < 65536

-- The same body, but for its instructions, which agree one by one. Its handlers and nested
-- attributes may have moved with them.
structure Alike (agree : Instruction → Instruction → Prop) (before after : Code) : Prop where
  name : after.name = before.name
  maxStack : after.maxStack = before.maxStack
  maxLocals : after.maxLocals = before.maxLocals
  instructions : List.Forall₂ agree before.instructions after.instructions

theorem WellFormed.extends (extended : Pool.Extends earlier later) {code : Code}
    (wellFormed : WellFormed earlier code) : WellFormed later code := by
  obtain ⟨⟨index, known, named⟩, nonempty, instructions, counted, handlers, attributes⟩ := wellFormed
  exact ⟨⟨index, known, Pool.text_extends extended named⟩, nonempty,
    fun instruction member => (instructions instruction member).extends extended, counted, handlers,
    attributes⟩

theorem nameIndex_reuses {code : Code} (known : code.name = some index)
    (named : pool.text index = .ok attributeName) : code.nameIndex pool = .ok index pool := by
  unfold nameIndex
  rw [known, Option.filter_some, named]
  simp [Except.toOption]

theorem relocate_length {code : Code} {before after : Log} {moved : List Handler × List Attribute}
    (ran : code.relocate pool old body before = .ok moved after) :
    moved.1.length = code.handlers.length ∧ moved.2.length = code.attributes.length := by
  simp only [relocate, run_bind_iff, run_pure_iff, Logging.lift_ok_iff, mapM_ok_iff] at ran
  obtain ⟨_, _, _, _, _, _, handlers, _, ⟨remapped, _⟩, attributes, _, carried, rfl, _⟩ := ran
  exact ⟨remapped.length_eq.symm, mapM_length carried⟩

-- What a body is written as, and read as again. It is written as this again in every pool that
-- grows out of this one.
structure Written (pool : Pool) (code : Code) (index : UInt16) (stored : StoredCode)
    (body : DecodedBody) : Prop where
  named : pool.text index = .ok attributeName
  decoded : Body.decode pool stored.code = .ok body
  respelled : Alike Instruction.Respelled code (stored.withBody index body)
  again : ∀ later, Pool.Extends pool later →
    Body.encode body.instructions later = .ok ⟨stored.code, body.offsets⟩ later
  nonempty : stored.code.length ≠ 0
  short : stored.code.length ≤ Body.maxLength
  handlers : stored.handlers.length < 65536
  attributes : stored.attributes.length < 65536

theorem Written.extends (extended : Pool.Extends earlier later) {code : Code}
    (written : Written earlier code index stored body) : Written later code index stored body := by
  obtain ⟨named, decoded, respelled, again, nonempty, short, handlers, attributes⟩ := written
  exact ⟨Pool.text_extends extended named, Body.decode_extends extended decoded, respelled,
    fun last further => again last (extended.trans further), nonempty, short, handlers, attributes⟩

theorem Written.fits {code : Code} (written : Written pool code index stored body)
    (short : stored.toBytes.length < 2 ^ 32) : stored.Fits :=
  ⟨written.nonempty, written.short, written.handlers, written.attributes,
    fun _ member => Nat.lt_of_le_of_lt (StoredCode.data_le member) short⟩

theorem payload_eq (code : Code) (body : EncodedBody) (handlers : List Handler)
    (attributes : List Attribute) (short : body.code.length < 2 ^ 32) :
    code.payload body handlers attributes =
      StoredCode.toBytes ⟨code.maxStack, code.maxLocals, body.code, handlers, attributes⟩ := by
  simp only [payload, StoredCode.toBytes, Bytes.length_toNat_ofNat _ short, List.append_assoc]

theorem nameIndex_sound {code : Code} (sound : pool.Sound) (ran : code.nameIndex pool = .ok index later) :
    pool.Grown later ∧ later.text index = .ok attributeName := by
  unfold nameIndex at ran
  cases known : code.name.filter fun index => (pool.text index).toOption == some attributeName with
  | some found =>
    rw [known] at ran
    cases ran
    have named := (Option.filter_eq_some_iff.mp known).2
    cases text : pool.text index with
    | error =>
      rw [text] at named
      cases named
    | ok string =>
      rw [text] at named
      exact ⟨.refl, congrArg Except.ok (Option.some.inj (eq_of_beq named))⟩
  | none =>
    rw [known] at ran
    exact ⟨(Pool.grows_internText _).ok ran, Pool.text_of_internText sound ran⟩

inductive Carried (pool : Pool) (code : Code) (body : EncodedBody) :
    List Handler → List Attribute → Prop where
  | stays (same : ∀ old, code.offsets = some old → old = body.offsets) :
      Carried pool code body code.handlers code.attributes
  | moves (read : code.offsets = some old) (moved : old ≠ body.offsets)
      (relocated : code.relocate pool old body before = .ok (table, nested) after) :
      Carried pool code body table nested

theorem Carried.length {code : Code} (carried : Carried pool code body table nested) :
    table.length = code.handlers.length ∧ nested.length = code.attributes.length := by
  cases carried with
  | stays => exact ⟨rfl, rfl⟩
  | moves _ _ relocated => exact relocate_length relocated

theorem toBytes_runs {code : Code} {before after : Workspace} {written : Bytes}
    (ran : code.toBytes before = .ok written after) :
    ∃ index middle body handlers attributes, code.nameIndex before.pool = .ok index middle ∧
      Body.encode code.instructions middle = .ok body after.pool ∧
      Carried after.pool code body handlers attributes ∧
      written = Attribute.toBytes ⟨index, code.payload body handlers attributes⟩ := by
  simp only [toBytes, run_bind_iff, Writing.intern_ok_iff] at ran
  obtain ⟨index, _, ⟨middle, named, rfl⟩, body, _, ⟨later, encoded, rfl⟩, ended⟩ := ran
  cases moved : code.offsets.filter (· ≠ body.offsets) with
  | none =>
    rw [moved] at ended
    simp only [run_bind_iff, run_pure_iff] at ended
    obtain ⟨_, _, ⟨rfl, rfl⟩, rfl, rfl⟩ := ended
    refine ⟨index, middle, body, _, _, named, encoded, .stays fun old read => ?_, rfl⟩
    simpa [read] using moved
  | some old =>
    rw [moved] at ended
    simp only [run_bind_iff, run_pure_iff, Writing.logging_ok_iff] at ended
    obtain ⟨given, _, looked, ⟨handlers, attributes⟩, _, ⟨log, relocated, rfl⟩, rfl, rfl⟩ := ended
    cases looked
    obtain ⟨read, different⟩ := Option.filter_eq_some_iff.mp moved
    exact ⟨index, middle, body, handlers, attributes, named, encoded,
      .moves read (of_decide_eq_true different) relocated, rfl⟩

theorem toBytes_run {code : Code} {before after : Workspace} {written : Bytes}
    (known : code.name = some index) (named : before.pool.text index = .ok attributeName)
    (ran : code.toBytes before = .ok written after) :
    ∃ body handlers attributes, Body.encode code.instructions before.pool = .ok body after.pool ∧
      handlers.length = code.handlers.length ∧ attributes.length = code.attributes.length ∧
      written = Attribute.toBytes ⟨index, code.payload body handlers attributes⟩ := by
  obtain ⟨_, _, body, handlers, attributes, reused, encoded, carried, rfl⟩ := toBytes_runs ran
  rw [nameIndex_reuses known named] at reused
  cases reused
  exact ⟨body, handlers, attributes, encoded, carried.length.1, carried.length.2, rfl⟩

theorem toBytes_sound {code : Code} {before after : Workspace} {written : Bytes}
    (sound : before.pool.Sound) (wellFormed : WellFormed before.pool code)
    (ran : code.toBytes before = .ok written after) :
    before.pool.Grown after.pool ∧ ∃ index stored body, Written after.pool code index stored body ∧
      written = Attribute.toBytes ⟨index, stored.toBytes⟩ := by
  obtain ⟨⟨index, known, named⟩, nonempty, instructions, counted, few, fewer⟩ := wellFormed
  obtain ⟨body, handlers, attributes, encoded, many, all, rfl⟩ := toBytes_run known named ran
  obtain ⟨grown, finals, rewritten⟩ := Body.encode_sound sound instructions encoded
  have some := rewritten.nonempty nonempty
  obtain ⟨decoded, respelled, again, short⟩ := rewritten
  have same : List.Forall₂ Instruction.Respelled code.instructions finals := by
    refine ((List.forall₂_and_left _ _).mpr ⟨counted, respelled⟩).imp ?_
    intro instruction final paired
    rcases paired with ⟨stays, one⟩
    rwa [stays] at one
  refine ⟨grown, index, ⟨code.maxStack, code.maxLocals, body.code, handlers, attributes⟩,
    ⟨finals, body.offsets⟩, ⟨Pool.text_extends grown.extends named, decoded,
      ⟨known.symm, rfl, rfl, same⟩, again, some, short, many ▸ few, all ▸ fewer⟩, ?_⟩
  rw [payload_eq code body handlers attributes (Nat.lt_of_le_of_lt short (by decide))]

theorem toBytes_of_encoded {code : Code} {before given later : Pool}
    (named : code.nameIndex before = .ok index given)
    (encoded : Body.encode code.instructions given = .ok body later)
    (stays : ∀ old, code.offsets = some old → old = body.offsets) (log : Log) :
    code.toBytes ⟨before, log⟩ =
      .ok (Attribute.toBytes ⟨index, code.payload body code.handlers code.attributes⟩)
        ⟨later, log⟩ := by
  have unmoved : code.offsets.filter (· ≠ body.offsets) = none := by
    rw [Option.filter_eq_none_iff]
    intro old read
    simpa using stays old read
  simp only [toBytes, run_bind_iff, Writing.intern_ok_iff]
  refine ⟨index, _, ⟨given, named, rfl⟩, _, _, ⟨later, encoded, rfl⟩, ?_⟩
  rw [unmoved]
  exact run_bind_iff.mpr ⟨_, _, rfl, rfl⟩

theorem toBytes_still {stored : StoredCode} {body : DecodedBody}
    (named : pool.text index = .ok attributeName)
    (encoded : Body.encode body.instructions pool = .ok ⟨stored.code, body.offsets⟩ pool)
    (short : stored.code.length ≤ Body.maxLength) :
    Writing.Still pool (stored.withBody index body).toBytes (Attribute.toBytes ⟨index, stored.toBytes⟩) := by
  intro log
  have payload : (stored.withBody index body).payload ⟨stored.code, body.offsets⟩ stored.handlers
      stored.attributes = stored.toBytes :=
    payload_eq _ _ _ _ (Nat.lt_of_le_of_lt short (by decide))
  have ran : (stored.withBody index body).toBytes ⟨pool, log⟩ =
      .ok (Attribute.toBytes ⟨index, (stored.withBody index body).payload
        ⟨stored.code, body.offsets⟩ stored.handlers stored.attributes⟩) ⟨pool, log⟩ :=
    toBytes_of_encoded (nameIndex_reuses rfl named) encoded
      (fun _ read => (Option.some.inj read).symm) log
  rwa [payload] at ran

end Code

namespace MethodAttribute

inductive WellFormed (pool : Pool) : MethodAttribute → Prop where
  | code (wellFormed : Code.WellFormed pool body) : WellFormed pool (.code body)
  | other (named : pool.encodedText entry.name = .ok text)
      (different : text.text? ≠ some Code.attributeName) : WellFormed pool (.other entry)

inductive Alike (agree : Instruction → Instruction → Prop) :
    MethodAttribute → MethodAttribute → Prop where
  | code (alike : Code.Alike agree before after) : Alike agree (.code before) (.code after)
  | other : Alike agree (.other entry) (.other entry)

inductive Written (pool : Pool) : MethodAttribute → Attribute → Prop where
  | code (written : Code.Written pool body index stored decoded) :
      Written pool (.code body) ⟨index, stored.toBytes⟩
  | other (named : pool.encodedText entry.name = .ok text)
      (different : text.text? ≠ some Code.attributeName) : Written pool (.other entry) entry

theorem WellFormed.extends (extended : Pool.Extends earlier later)
    (wellFormed : WellFormed earlier item) : WellFormed later item := by
  cases wellFormed with
  | code body => exact .code (body.extends extended)
  | other named different => exact .other (Pool.encodedText_extends extended named) different

theorem Written.extends (extended : Pool.Extends earlier later)
    (written : Written earlier item entry) : Written later item entry := by
  cases written with
  | code body => exact .code (body.extends extended)
  | other named different => exact .other (Pool.encodedText_extends extended named) different

theorem toBytes_sound {item : MethodAttribute} {before after : Workspace} {written : Bytes}
    (sound : before.pool.Sound) (wellFormed : WellFormed before.pool item)
    (ran : item.toBytes before = .ok written after) :
    before.pool.Grown after.pool ∧ ∃ entry, written = Attribute.toBytes entry ∧
      Written after.pool item entry := by
  cases wellFormed with
  | code body =>
    obtain ⟨grown, index, stored, decoded, kept, rfl⟩ := Code.toBytes_sound sound body ran
    exact ⟨grown, _, rfl, .code kept⟩
  | other named different =>
    obtain ⟨rfl, rfl⟩ := run_pure_iff.mp ran
    exact ⟨.refl, _, rfl, .other named different⟩

theorem Written.reads (written : Written pool item entry) (short : entry.data.length < 2 ^ 32) :
    ∃ again, Alike Instruction.Respelled item again ∧ Resolved pool entry again ∧
      Writing.Still pool again.toBytes entry.toBytes := by
  cases written with
  | @code _ index stored decoded body =>
    have parsed := StoredCode.parse_ok_iff.mpr ⟨rfl, body.fits short⟩
    exact ⟨_, .code body.respelled, .code body.named parsed body.decoded,
      Code.toBytes_still body.named (body.again pool (.refl pool)) body.short⟩
  | other named different => exact ⟨_, .other, .other named different, fun _ => rfl⟩

end MethodAttribute

namespace Method

structure WellFormed (pool : Pool) (method : Method) : Prop where
  name : ∃ index, method.nameIndex = some index ∧ pool.Shows index method.name
  descriptor : ∃ index, method.descriptorIndex = some index ∧ pool.Shows index method.descriptor
  counted : method.attributes.length < 65536
  attributes : ∀ item ∈ method.attributes, item.WellFormed pool

structure Alike (agree : Instruction → Instruction → Prop) (before after : Method) : Prop where
  flags : after.flags = before.flags
  name : after.name = before.name
  descriptor : after.descriptor = before.descriptor
  nameIndex : after.nameIndex = before.nameIndex
  descriptorIndex : after.descriptorIndex = before.descriptorIndex
  attributes : List.Forall₂ (MethodAttribute.Alike agree) before.attributes after.attributes

structure Written (pool : Pool) (method : Method) (stored : Field) : Prop where
  flags : method.flags = stored.flags
  nameIndex : method.nameIndex = some stored.name
  descriptorIndex : method.descriptorIndex = some stored.descriptor
  name : pool.Shows stored.name method.name
  descriptor : pool.Shows stored.descriptor method.descriptor
  counted : stored.attributes.length < 65536
  attributes : List.Forall₂ (MethodAttribute.Written pool) method.attributes stored.attributes

theorem WellFormed.extends (extended : Pool.Extends earlier later) {method : Method}
    (wellFormed : WellFormed earlier method) : WellFormed later method := by
  obtain ⟨⟨index, known, name⟩, ⟨place, given, descriptor⟩, counted, attributes⟩ := wellFormed
  exact ⟨⟨index, known, Pool.shows_extends extended name⟩,
    ⟨place, given, Pool.shows_extends extended descriptor⟩, counted,
    fun item member => (attributes item member).extends extended⟩

theorem Written.extends (extended : Pool.Extends earlier later) {method : Method}
    (written : Written earlier method stored) : Written later method stored := by
  obtain ⟨flags, nameIndex, descriptorIndex, name, descriptor, counted, attributes⟩ := written
  exact ⟨flags, nameIndex, descriptorIndex, Pool.shows_extends extended name,
    Pool.shows_extends extended descriptor, counted,
    attributes.imp fun _ _ one => one.extends extended⟩

theorem textIndex_reuses {hint : Option UInt16} {text : String} (known : hint = some index)
    (shown : pool.Shows index text) : textIndex hint text pool = .ok index pool := by
  obtain ⟨stored, found, read⟩ := shown
  unfold textIndex
  rw [known, Option.filter_some, found]
  simp [Except.toOption, read]

theorem spelled_eq (flags name descriptor : UInt16) (entries : List Attribute) :
    Bytes.u16 flags ++ Bytes.u16 name ++ Bytes.u16 descriptor ++
        Bytes.count (entries.map Attribute.toBytes) ++ (entries.map Attribute.toBytes).flatten =
      Field.toBytes ⟨flags, name, descriptor, entries⟩ := by
  simp [Field.toBytes, Attribute.listToBytes, Bytes.count, List.flatMap_def]

theorem toBytes_sound {method : Method} {before after : Workspace} {written : Bytes}
    (sound : before.pool.Sound) (wellFormed : WellFormed before.pool method)
    (ran : method.toBytes before = .ok written after) :
    before.pool.Grown after.pool ∧ ∃ stored, written = Field.toBytes stored ∧
      Written after.pool method stored := by
  obtain ⟨⟨index, known, name⟩, ⟨place, given, descriptor⟩, counted, attributes⟩ := wellFormed
  simp only [toBytes, run_bind_iff, run_pure_iff, Writing.intern_ok_iff] at ran
  obtain ⟨_, _, ⟨pool, first, rfl⟩, _, _, ⟨later, second, rfl⟩, entries, _, wrote, rfl, rfl⟩ := ran
  rw [textIndex_reuses known name] at first
  cases first
  rw [textIndex_reuses given descriptor] at second
  cases second
  obtain ⟨grown, stored, rfl, all⟩ := Writing.mapM_sound MethodAttribute.WellFormed
    MethodAttribute.Written wrote sound attributes
    (fun _ _ _ extended known => known.extends extended)
    (fun _ _ _ _ extended written => written.extends extended)
    (fun _ _ _ _ sound known ran => MethodAttribute.toBytes_sound sound known ran)
  refine ⟨grown, ⟨method.flags, index, place, stored⟩, spelled_eq _ _ _ _, rfl, known, given,
    Pool.shows_extends grown.extends name, Pool.shows_extends grown.extends descriptor, ?_, all⟩
  rw [← all.length_eq]
  exact counted

theorem toBytes_of_attributes {method : Method} (known : method.nameIndex = some index)
    (name : pool.Shows index method.name) (given : method.descriptorIndex = some place)
    (descriptor : pool.Shows place method.descriptor)
    (still : List.Forall₂ (fun (entry : Attribute) (item : MethodAttribute) =>
      Writing.Still pool item.toBytes entry.toBytes) entries method.attributes) :
    Writing.Still pool method.toBytes (Field.toBytes ⟨method.flags, index, place, entries⟩) := by
  intro log
  simp only [toBytes, run_bind_iff, run_pure_iff, Writing.intern_ok_iff]
  exact ⟨_, _, ⟨pool, textIndex_reuses known name, rfl⟩, _, _,
    ⟨pool, textIndex_reuses given descriptor, rfl⟩, _, _, Writing.still_mapM still log,
    spelled_eq _ _ _ _, rfl⟩

theorem toBytes_still {method : Method} (resolved : Resolved pool stored method)
    (still : List.Forall₂ (fun (entry : Attribute) (item : MethodAttribute) =>
      Writing.Still pool item.toBytes entry.toBytes) stored.attributes method.attributes) :
    Writing.Still pool method.toBytes stored.toBytes := by
  obtain ⟨flags, nameIndex, descriptorIndex, name, descriptor, _⟩ := resolved
  have written := toBytes_of_attributes nameIndex name descriptorIndex descriptor still
  rwa [flags] at written

theorem Written.reads {method : Method} (written : Written pool method stored)
    (short : ∀ entry ∈ stored.attributes, entry.data.length < 2 ^ 32) :
    ∃ again, Alike Instruction.Respelled method again ∧ Resolved pool stored again ∧
      Writing.Still pool again.toBytes stored.toBytes := by
  obtain ⟨flags, nameIndex, descriptorIndex, name, descriptor, _, attributes⟩ := written
  have back := (List.forall₂_and_left _ _).mpr ⟨short, attributes.flip⟩
  obtain ⟨items, respelled, found⟩ := forall₂_choose
    (back.imp fun _ _ ⟨small, written⟩ => MethodAttribute.Written.reads written small).flip
  let again : Method := ⟨stored.flags, method.name, method.descriptor, items, some stored.name,
    some stored.descriptor⟩
  have resolved : Resolved pool stored again :=
    ⟨rfl, rfl, rfl, name, descriptor, found.imp fun _ _ one => one.1⟩
  exact ⟨again, ⟨flags.symm, rfl, rfl, nameIndex.symm, descriptorIndex.symm, respelled⟩, resolved,
    toBytes_still resolved (found.imp fun _ _ one => one.2)⟩

end Method
end ClassRename
