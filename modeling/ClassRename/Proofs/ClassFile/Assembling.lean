import ClassRename.Proofs.Body.Accepting
import ClassRename.Proofs.ClassFile.Untouched

namespace ClassRename
open Effects

namespace Code

-- A body that the format has a place for, apart from how long its code gets.
structure Writable (pool : Pool) (code : Code) : Prop where
  instructions : ∀ instruction ∈ code.instructions, instruction.Fits pool
  handlers : code.handlers.length < 65536
  attributes : code.attributes.length < 65536

theorem Writable.extends {code : Code} (extended : Pool.Extends earlier later)
    (writable : Writable earlier code) : Writable later code :=
  ⟨fun instruction member => (writable.instructions instruction member).extends extended,
    writable.handlers, writable.attributes⟩

theorem WellFormed.writable {code : Code} (wellFormed : WellFormed pool code) : Writable pool code :=
  ⟨fun instruction member => .wellFormed (wellFormed.instructions instruction member),
    wellFormed.handlers, wellFormed.attributes⟩

structure Restated (pool : Pool) (code : Code) (index : UInt16) (stored : StoredCode)
    (body : DecodedBody) : Prop where
  named : pool.text index = .ok attributeName
  decoded : Body.decode pool stored.code = .ok body
  counted : body.instructions.length = code.instructions.length
  short : stored.code.length ≤ Body.maxLength
  handlers : stored.handlers.length < 65536
  attributes : stored.attributes.length < 65536

theorem Restated.extends {code : Code} (extended : Pool.Extends earlier later)
    (restated : Restated earlier code index stored body) : Restated later code index stored body :=
  ⟨Pool.text_extends extended restated.named, Body.decode_extends extended restated.decoded,
    restated.counted, restated.short, restated.handlers, restated.attributes⟩

theorem toBytes_restates {code : Code} {before after : Workspace} {written : Bytes}
    (sound : before.pool.Sound) (writable : Writable before.pool code)
    (ran : code.toBytes before = .ok written after) :
    before.pool.Grown after.pool ∧ ∃ index stored body, Restated after.pool code index stored body ∧
      written = Attribute.toBytes ⟨index, stored.toBytes⟩ := by
  obtain ⟨instructions, few, fewer⟩ := writable
  obtain ⟨index, middle, body, handlers, attributes, named, encoded, carried, rfl⟩ := toBytes_runs ran
  obtain ⟨first, text⟩ := nameIndex_sound sound named
  obtain ⟨second, decoded, read, counted, short⟩ := Body.encode_accepted (first.sound sound)
    (fun instruction member => (instructions instruction member).extends first.extends) encoded
  obtain ⟨many, all⟩ := carried.length
  refine ⟨first.trans second, index,
    ⟨code.maxStack, code.maxLocals, body.code, handlers, attributes⟩, decoded,
    ⟨Pool.text_extends second.extends text, read, counted, short, many ▸ few, all ▸ fewer⟩, ?_⟩
  rw [payload_eq code body handlers attributes (Nat.lt_of_le_of_lt short (by decide))]

end Code

namespace MethodAttribute

inductive Writable (pool : Pool) : MethodAttribute → Prop where
  | code (writable : Code.Writable pool body) : Writable pool (.code body)
  | other (named : pool.encodedText entry.name = .ok text)
      (different : text.text? ≠ some Code.attributeName) : Writable pool (.other entry)

inductive Restated (pool : Pool) : MethodAttribute → Attribute → Prop where
  | code (restated : Code.Restated pool body index stored decoded) :
      Restated pool (.code body) ⟨index, stored.toBytes⟩
  | other (named : pool.encodedText entry.name = .ok text)
      (different : text.text? ≠ some Code.attributeName) : Restated pool (.other entry) entry

theorem Writable.extends (extended : Pool.Extends earlier later) (writable : Writable earlier item) :
    Writable later item := by
  cases writable with
  | code body => exact .code (body.extends extended)
  | other named different => exact .other (Pool.encodedText_extends extended named) different

theorem Restated.extends (extended : Pool.Extends earlier later)
    (restated : Restated earlier item entry) : Restated later item entry := by
  cases restated with
  | code body => exact .code (body.extends extended)
  | other named different => exact .other (Pool.encodedText_extends extended named) different

theorem toBytes_restates {item : MethodAttribute} {before after : Workspace} {written : Bytes}
    (sound : before.pool.Sound) (writable : Writable before.pool item)
    (ran : item.toBytes before = .ok written after) :
    before.pool.Grown after.pool ∧ ∃ entry, written = Attribute.toBytes entry ∧
      Restated after.pool item entry := by
  cases writable with
  | code body =>
    obtain ⟨grown, index, stored, decoded, restated, rfl⟩ := Code.toBytes_restates sound body ran
    exact ⟨grown, _, rfl, .code restated⟩
  | other named different =>
    obtain ⟨rfl, rfl⟩ := run_pure_iff.mp ran
    exact ⟨.refl, _, rfl, .other named different⟩

def size? (item : MethodAttribute) : Option Nat := item.code?.map (·.instructions.length)

theorem Restated.reads (restated : Restated pool item entry) (short : entry.data.length < 2 ^ 32)
    (nonempty : item.size? ≠ some 0) : ∃ again, Resolved pool entry again ∧ again.size? = item.size? := by
  cases restated with
  | @code code index stored body restated =>
    obtain ⟨named, decoded, counted, small, few, fewer⟩ := restated
    have some : code.instructions.length ≠ 0 := fun none => nonempty (congrArg Option.some none)
    have filled : stored.code.length ≠ 0 := by
      intro empty
      have none := (Body.decode_nil_iff decoded).mp (List.eq_nil_of_length_eq_zero empty)
      rw [none] at counted
      exact some counted.symm
    have fits : stored.Fits := ⟨filled, small, few, fewer, fun _ member =>
      Nat.lt_of_le_of_lt (StoredCode.data_le member) short⟩
    have parsed := StoredCode.parse_ok_iff.mpr ⟨rfl, fits⟩
    exact ⟨_, .code named parsed decoded, congrArg Option.some counted⟩
  | other named different => exact ⟨_, .other named different, rfl⟩

end MethodAttribute

namespace Method

def outline (method : Method) : String × String × List Nat :=
  (method.name, method.descriptor, method.attributes.filterMap MethodAttribute.size?)

structure Writable (pool : Pool) (method : Method) : Prop where
  counted : method.attributes.length < 65536
  attributes : ∀ item ∈ method.attributes, item.Writable pool

structure Restated (pool : Pool) (method : Method) (stored : Field) : Prop where
  name : pool.Shows stored.name method.name
  descriptor : pool.Shows stored.descriptor method.descriptor
  counted : stored.attributes.length < 65536
  attributes : List.Forall₂ (MethodAttribute.Restated pool) method.attributes stored.attributes

theorem Writable.extends {method : Method} (extended : Pool.Extends earlier later)
    (writable : Writable earlier method) : Writable later method :=
  ⟨writable.counted, fun item member => (writable.attributes item member).extends extended⟩

theorem Restated.extends {method : Method} (extended : Pool.Extends earlier later)
    (restated : Restated earlier method stored) : Restated later method stored :=
  ⟨Pool.shows_extends extended restated.name, Pool.shows_extends extended restated.descriptor,
    restated.counted, restated.attributes.imp fun _ _ one => one.extends extended⟩

theorem textIndex_sound {hint : Option UInt16} {text : String} (sound : pool.Sound)
    (ran : textIndex hint text pool = .ok index later) :
    pool.Grown later ∧ later.Shows index text := by
  unfold textIndex at ran
  split at ran
  · rename_i reused
    cases ran
    have shown := beq_iff_eq.mp (Option.filter_eq_some_iff.mp reused).2
    obtain ⟨stored, found, same⟩ := Option.map_eq_some_iff.mp shown
    exact ⟨.refl, stored, toOption_some_iff.mp found, same⟩
  · obtain ⟨stored, found, read⟩ := Pool.text_ok_iff.mp (Pool.text_of_internText sound ran)
    exact ⟨(Pool.grows_internText text).ok ran, stored, found, by rw [EncodedText.lossy, read]; rfl⟩

theorem toBytes_restates {method : Method} {before after : Workspace} {written : Bytes}
    (sound : before.pool.Sound) (writable : Writable before.pool method)
    (ran : method.toBytes before = .ok written after) :
    before.pool.Grown after.pool ∧ ∃ stored, written = Field.toBytes stored ∧
      Restated after.pool method stored := by
  obtain ⟨counted, attributes⟩ := writable
  simp only [toBytes, run_bind_iff, run_pure_iff, Writing.intern_ok_iff] at ran
  obtain ⟨index, _, ⟨pool, named, rfl⟩, place, _, ⟨later, described, rfl⟩, entries, _, wrote, rfl,
    rfl⟩ := ran
  obtain ⟨first, name⟩ := textIndex_sound sound named
  obtain ⟨second, descriptor⟩ := textIndex_sound (first.sound sound) described
  have both := first.trans second
  obtain ⟨last, stored, rfl, all⟩ := Writing.mapM_sound MethodAttribute.Writable
    MethodAttribute.Restated wrote (both.sound sound)
    (fun item member => (attributes item member).extends both.extends)
    (fun _ _ _ extended known => known.extends extended)
    (fun _ _ _ _ extended written => written.extends extended)
    (fun _ _ _ _ sound known ran => MethodAttribute.toBytes_restates sound known ran)
  refine ⟨both.trans last, ⟨method.flags, index, place, stored⟩, spelled_eq _ _ _ _,
    Pool.shows_extends (second.trans last).extends name, Pool.shows_extends last.extends descriptor,
    all.length_eq ▸ counted, all⟩

theorem Restated.reads {method : Method} (restated : Restated pool method stored)
    (short : ∀ entry ∈ stored.attributes, entry.data.length < 2 ^ 32)
    (nonempty : ∀ item ∈ method.attributes, item.size? ≠ some 0) :
    ∃ again, Resolved pool stored again ∧ again.outline = method.outline := by
  obtain ⟨name, descriptor, _, attributes⟩ := restated
  have ready := (List.forall₂_and_left _ _).mpr ⟨nonempty, attributes⟩
  have back := (List.forall₂_and_left _ _).mpr ⟨short, ready.flip⟩
  obtain ⟨items, found, sizes⟩ := forall₂_choose
    (back.imp fun _ _ ⟨small, full, restated⟩ => restated.reads small full)
  let again : Method := ⟨stored.flags, method.name, method.descriptor, items, some stored.name,
    some stored.descriptor⟩
  have kept : items.filterMap MethodAttribute.size? =
      method.attributes.filterMap MethodAttribute.size? := by
    simpa [List.filterMap_map] using congrArg (List.filterMap id) (map_eq_of_forall₂ sizes)
  refine ⟨again, ⟨rfl, rfl, rfl, name, descriptor, found⟩, ?_⟩
  unfold outline
  rw [kept]

end Method

namespace ClassFile

structure Writable (file : ClassFile) : Prop where
  pool : file.pool.Built
  named : ∃ text, file.pool.encodedClassName file.thisClass = .ok text
  interfaces : file.interfaces.length < 65536
  fields : file.fields.length < 65536 ∧ ∀ field ∈ file.fields, Attribute.ListFits field.attributes
  methods : ∀ method ∈ file.methods, method.Writable file.pool
  attributes : Attribute.ListFits file.attributes

theorem toBytes_restates {file : ClassFile} {before after : Log} (writable : file.Writable)
    (ran : file.toBytes before = .ok written after) :
    ∃ pool stored, file.pool.Grown pool ∧ written = (file.storedWith pool stored).toBytes ∧
      List.Forall₂ (Method.Restated pool) file.methods stored := by
  cases wrote : file.methods.mapM Method.toBytes ⟨file.pool, before⟩ with
  | error error left =>
    unfold toBytes at ran
    rw [wrote] at ran
    cases ran
  | ok bytes left =>
    obtain ⟨grown, stored, rfl, all⟩ := Writing.mapM_sound Method.Writable Method.Restated wrote
      writable.pool.sound writable.methods (fun _ _ _ extended known => known.extends extended)
      (fun _ _ _ _ extended written => written.extends extended)
      (fun _ _ _ _ sound known ran => Method.toBytes_restates sound known ran)
    rw [toBytes_of_methods wrote] at ran
    cases ran
    exact ⟨left.pool, stored, grown, rfl, all⟩

def Rereads (file : ClassFile) (written : Bytes) : Prop :=
  ∃ again, parse written = .ok again ∧
    again.methods.map Method.outline = file.methods.map Method.outline

theorem size_ne_zero {file : ClassFile}
    (nonempty : ∀ code ∈ file.allBodies, code.instructions ≠ []) (defined : method ∈ file.methods)
    (item : MethodAttribute) (listed : item ∈ method.attributes) : item.size? ≠ some 0 := by
  intro none
  obtain ⟨code, found, empty⟩ := Option.map_eq_some_iff.mp none
  have member := mem_allBodies_iff.mpr ⟨method, defined, item, listed, found⟩
  exact nonempty code member (List.eq_nil_of_length_eq_zero empty)

theorem rereads_of_writable {file : ClassFile} {before after : Log} (writable : file.Writable)
    (ran : file.toBytes before = .ok written after) (short : written.length < 2 ^ 32)
    (counted : file.methods.length < 65536)
    (nonempty : ∀ code ∈ file.allBodies, code.instructions ≠ []) : file.Rereads written := by
  obtain ⟨pool, stored, grown, rfl, all⟩ := toBytes_restates writable ran
  have small : ∀ method ∈ stored, ∀ entry ∈ method.attributes, entry.data.length < 2 ^ 32 :=
    fun method member entry inside => Nat.lt_of_le_of_lt
      (StoredClass.data_le (show method ∈ (file.storedWith pool stored).methods from member) inside)
      short
  have full : ∀ method ∈ file.methods, ∀ item ∈ method.attributes, item.size? ≠ some 0 :=
    fun _ defined => size_ne_zero nonempty defined
  have ready := (List.forall₂_and_left _ _).mpr ⟨full, all⟩
  have back := (List.forall₂_and_left _ _).mpr ⟨small, ready.flip⟩
  obtain ⟨methods, found, outlines⟩ := forall₂_choose
    (back.imp fun _ _ ⟨small, full, restated⟩ => restated.reads small full)
  obtain ⟨built, ⟨text, named⟩, interfaces, fields, _, attributes⟩ := writable
  have fits : (file.storedWith pool stored).Fits := by
    refine ⟨built.grow grown, interfaces, fields, ⟨all.length_eq ▸ counted, ?_⟩, attributes⟩
    intro method member
    obtain ⟨_, _, restated⟩ := forall₂_partner all member
    exact ⟨restated.counted, small method member⟩
  let again : ClassFile := { file with pool := pool, methods := methods }
  have resolved : (file.storedWith pool stored).Resolved again :=
    ⟨rfl, rfl, rfl, rfl, rfl, rfl, rfl, rfl, rfl,
      ⟨text, Pool.encodedClassName_extends grown.extends named⟩, found⟩
  exact ⟨again, parse_ok_iff.mpr ⟨_, StoredClass.parse_ok_iff.mpr ⟨rfl, fits⟩, resolved⟩,
    map_eq_of_forall₂ outlines⟩

theorem condition_of_rereads {file : ClassFile} (rereads : file.Rereads written) :
    file.methods.length < 65536 ∧ ∀ code ∈ file.allBodies, code.instructions ≠ [] := by
  obtain ⟨again, accepted, same⟩ := rereads
  have wellFormed := wellFormed_of_parse accepted
  have many : again.methods.length = file.methods.length := by
    simpa using congrArg List.length same
  refine ⟨many ▸ wellFormed.counted, fun code member empty => ?_⟩
  obtain ⟨method, defined, item, listed, found⟩ := mem_allBodies_iff.mp member
  have outlined := List.mem_map_of_mem (f := Method.outline) defined
  rw [← same] at outlined
  obtain ⟨other, present, agree⟩ := List.mem_map.mp outlined
  have size : 0 ∈ method.outline.2.2 := by
    refine List.mem_filterMap.mpr ⟨item, listed, ?_⟩
    rw [MethodAttribute.size?, found, Option.map_some, empty, List.length_nil]
  rw [← agree] at size
  obtain ⟨partner, kept, none⟩ := List.mem_filterMap.mp size
  obtain ⟨body, held, nothing⟩ := Option.map_eq_some_iff.mp none
  have known := (wellFormed.methods other present).attributes partner kept
  cases known with
  | code wellFormed =>
    cases held
    exact wellFormed.nonempty (List.eq_nil_of_length_eq_zero nothing)
  | other => cases held

-- Classes as a caller puts them together.
inductive Assembled : ClassFile → Prop where
  | made {name : String} {superName : Option String} (ran : make name superName = .ok file) : Assembled file
  | parsed (accepted : parse data = .ok file) : Assembled file
  | declared (assembled : Assembled file) (flags : UInt16) (name descriptor : String) :
      Assembled (file.addMethod flags name descriptor none)
  | defined (assembled : Assembled file) (flags : UInt16) (name descriptor : String)
      (maxStack maxLocals : UInt16) (fits : ∀ instruction ∈ instructions, instruction.Fits file.pool) :
      Assembled (file.addMethod flags name descriptor (some (.make maxStack maxLocals instructions)))

theorem writable_of_make {name : String} {superName : Option String}
    (ran : make name superName = .ok file) : file.Writable := by
  unfold make at ran
  dsimp only at ran
  split at ran
  · rename_i thisClass superClass pool made
    cases ran
    obtain ⟨index, middle, named, ended⟩ := run_bind_iff.mp made
    have first := (Pool.grows_internClass name).ok named
    have this := Pool.className_of_internClass Pool.empty_sound named
    obtain ⟨grown, same⟩ : middle.Grown pool ∧ index = thisClass := by
      cases superName with
      | none =>
        cases ended
        exact ⟨.refl, rfl⟩
      | some superName =>
        obtain ⟨place, _, above, ended⟩ := run_bind_iff.mp ended
        cases ended
        exact ⟨(Pool.grows_internClass superName).ok above, rfl⟩
    obtain ⟨text, found, _⟩ := Pool.className_ok_iff.mp (Pool.className_extends grown.extends this)
    exact ⟨first.trans grown, ⟨text, same ▸ found⟩, Nat.zero_lt_succ _,
      ⟨Nat.zero_lt_succ _, List.forall_mem_nil _⟩, List.forall_mem_nil _,
      Nat.zero_lt_succ _, List.forall_mem_nil _⟩
  · cases ran

theorem WellFormed.writable {file : ClassFile} (wellFormed : file.WellFormed) : file.Writable := by
  obtain ⟨built, named, interfaces, fields, _, methods, attributes⟩ := wellFormed
  refine ⟨built, named, interfaces, fields, fun method member => ?_, attributes⟩
  have known := methods method member
  refine ⟨known.counted, fun item listed => ?_⟩
  cases known.attributes item listed with
  | code body => exact .code body.writable
  | other named different => exact .other named different

theorem Writable.addMethod {file : ClassFile} (writable : file.Writable) (flags : UInt16)
    (name descriptor : String) (code : Option Code)
    (body : ∀ given, code = some given → given.Writable file.pool) :
    (file.addMethod flags name descriptor code).Writable := by
  obtain ⟨built, named, interfaces, fields, methods, attributes⟩ := writable
  refine ⟨built, named, interfaces, fields, fun method member => ?_, attributes⟩
  rcases List.mem_append.mp member with old | new
  · exact methods method old
  · obtain rfl := List.mem_singleton.mp new
    cases code with
    | none => exact ⟨Nat.zero_lt_succ _, List.forall_mem_nil _⟩
    | some given =>
      exact ⟨Nat.succ_lt_succ (Nat.zero_lt_succ _),
        List.forall_mem_singleton.mpr (.code (body given rfl))⟩

theorem Assembled.writable (assembled : Assembled file) : file.Writable := by
  induction assembled with
  | made ran => exact writable_of_make ran
  | parsed accepted => exact (wellFormed_of_parse accepted).writable
  | declared _ flags name descriptor ih =>
    exact ih.addMethod flags name descriptor none fun _ same => by cases same
  | defined _ flags name descriptor maxStack maxLocals fits ih =>
    refine ih.addMethod flags name descriptor _ fun _ same => ?_
    cases same
    exact ⟨fits, Nat.zero_lt_succ _, Nat.zero_lt_succ _⟩

-- What an assembled class is written as is read again exactly if its methods can be counted and
-- none of its bodies is empty.
theorem toBytes_of_assembled {before after : Log} (assembled : Assembled file)
    (ran : file.toBytes before = .ok written after) (short : written.length < 2 ^ 32) :
    file.Rereads written ↔
      file.methods.length < 65536 ∧ ∀ code ∈ file.allBodies, code.instructions ≠ [] := by
  constructor
  · exact condition_of_rereads
  · rintro ⟨counted, nonempty⟩
    exact rereads_of_writable assembled.writable ran short counted nonempty

def freshPool : Pool := (Pool.empty.append (.utf8 (.ofString "A"))).append (.classRef 1)

def freshClass (instructions : List Instruction) : ClassFile :=
  addMethod ⟨0, defaultVersion, freshPool, defaultFlags, 2, 0, [], [], [], []⟩ 1 "m" "()V"
    (some (.make 0 1 instructions))

def spelledPool : Pool :=
  ((freshPool.append (.utf8 (.ofString "m"))).append (.utf8 (.ofString "()V"))).append
    (.utf8 (.ofString "Code"))

def freshStored (code : Bytes) : StoredClass :=
  (freshClass []).storedWith spelledPool [⟨1, 3, 4, [⟨5, StoredCode.toBytes ⟨0, 1, code, [], []⟩⟩]⟩]

theorem freshPool_built : freshPool.Built :=
  .add (.add .refl (show (ModifiedUtf8.encode "A").length < 65536 by decide) (by decide)) trivial
    (by decide)

theorem freshClass_assembled (fits : ∀ instruction ∈ instructions, instruction.Fits freshPool) :
    Assembled (freshClass instructions) := by
  have sound := Pool.append_sound Pool.empty_sound
    (show Pool.empty.size + (Constant.utf8 (.ofString "A")).slots.length ≤ Pool.capacity by decide)
  have text : Pool.internText "A" .empty = .ok 1 (Pool.empty.append (.utf8 (.ofString "A"))) :=
    Pool.intern_fresh Pool.empty_sound (by decide +kernel) (by decide)
  have holder : Pool.intern (.classRef 1) (Pool.empty.append (.utf8 (.ofString "A"))) =
      .ok 2 freshPool :=
    Pool.intern_fresh sound (by decide +kernel) (by decide)
  have named : Pool.internClass "A" .empty = .ok 2 freshPool :=
    run_bind_iff.mpr ⟨1, _, text, holder⟩
  have made : make "A" none =
      .ok ⟨0, defaultVersion, freshPool, defaultFlags, 2, 0, [], [], [], []⟩ := by
    unfold make
    simp only [EStateM.run, bind_apply, named, pure_apply]
  exact .defined (.made made) 1 "m" "()V" 0 1 fits

theorem freshClass_written (encoded : Body.encode instructions spelledPool =
      .ok ⟨code, offsets⟩ spelledPool) (short : code.length < 2 ^ 32) (log : Log) :
    (freshClass instructions).toBytes log = .ok (freshStored code).toBytes log := by
  let named := freshPool.append (.utf8 (.ofString "m"))
  let described := named.append (.utf8 (.ofString "()V"))
  have first : Pool.internText "m" freshPool = .ok 3 named :=
    Pool.intern_fresh freshPool_built.sound (by decide +kernel) (by decide)
  have sound : named.Sound := Pool.append_sound freshPool_built.sound (by decide)
  have second : Pool.internText "()V" named = .ok 4 described :=
    Pool.intern_fresh sound (by decide +kernel) (by decide)
  have third : Pool.internText Code.attributeName described = .ok 5 spelledPool :=
    Pool.intern_fresh (Pool.append_sound sound (by decide)) (by decide +kernel) (by decide)
  have body : Code.toBytes (.make 0 1 instructions) ⟨described, log⟩ =
      .ok (Attribute.toBytes ⟨5, StoredCode.toBytes ⟨0, 1, code, [], []⟩⟩) ⟨spelledPool, log⟩ := by
    simp only [Code.toBytes, run_bind_iff, Writing.intern_ok_iff]
    refine ⟨5, _, ⟨spelledPool, third, rfl⟩, _, _, ⟨spelledPool, encoded, rfl⟩, ?_⟩
    have payload := Code.payload_eq (.make 0 1 instructions) ⟨code, offsets⟩ [] [] short
    exact congrArg (fun data => EStateM.Result.ok (Attribute.toBytes ⟨5, data⟩) _) payload
  have method : Method.toBytes (.make 1 "m" "()V" (some (.make 0 1 instructions)))
      ⟨freshPool, log⟩ =
        .ok (Field.toBytes ⟨1, 3, 4, [⟨5, StoredCode.toBytes ⟨0, 1, code, [], []⟩⟩]⟩)
          ⟨spelledPool, log⟩ := by
    simp only [Method.toBytes, run_bind_iff, Writing.intern_ok_iff]
    refine ⟨3, _, ⟨named, first, rfl⟩, 4, _, ⟨described, second, rfl⟩,
      [Attribute.toBytes ⟨5, StoredCode.toBytes ⟨0, 1, code, [], []⟩⟩], ⟨spelledPool, log⟩, ?_, ?_⟩
    · change List.mapM MethodAttribute.toBytes [.code (.make 0 1 instructions)] _ = _
      rw [List.mapM_cons, bind_apply, MethodAttribute.toBytes, body]
      rfl
    · exact congrArg (EStateM.Result.ok · _) (Method.spelled_eq 1 3 4 [_])
  refine toBytes_of_methods ?_
  change List.mapM Method.toBytes [.make 1 "m" "()V" (some (.make 0 1 instructions))]
    ⟨freshPool, log⟩ = _
  rw [List.mapM_cons, bind_apply, method]
  rfl

theorem returningClass_reread : ∃ written,
    Assembled (freshClass [.simple 0xB1]) ∧
    (freshClass [.simple 0xB1]).toBytes #[] = .ok written #[] ∧ written.length < 2 ^ 32 ∧
    (freshClass [.simple 0xB1]).Rereads written := by
  have assembled : Assembled (freshClass [.simple 0xB1]) :=
    freshClass_assembled (List.forall_mem_singleton.mpr (.wellFormed (.plain rfl rfl)))
  have encoded : Body.encode [.simple 0xB1] spelledPool = .ok ⟨[0xB1], #[0, 1]⟩ spelledPool :=
    Body.encode_ok_iff.mpr ⟨[.fixed [0xB1]], rfl, by decide +kernel⟩
  have written := freshClass_written encoded (by decide) #[]
  have short : (freshStored [0xB1]).toBytes.length < 2 ^ 32 := by decide +kernel
  refine ⟨_, assembled, written, short, (toBytes_of_assembled assembled written short).mpr ?_⟩
  exact ⟨by decide, List.forall_mem_singleton.mpr (by simp [Code.make])⟩

-- A body without an instruction is written, with a length that no reader accepts.
theorem emptyBody_refused : ∃ written, Assembled (freshClass []) ∧
    (freshClass []).toBytes #[] = .ok written #[] ∧
    parse written = .error (.malformed (.invalidCodeLength 0)) := by
  have encoded : Body.encode [] spelledPool = .ok ⟨[], #[0]⟩ spelledPool :=
    Body.encode_ok_iff.mpr ⟨[], rfl, by decide +kernel⟩
  have refused : (match parse (freshStored []).toBytes with
      | .ok _ => none
      | .error error => some error) = some (.malformed (.invalidCodeLength 0)) := by
    decide +kernel
  refine ⟨_, freshClass_assembled (List.forall_mem_nil _), freshClass_written encoded (by decide) #[],
    ?_⟩
  cases outcome : parse (freshStored []).toBytes with
  | ok file =>
    rw [outcome] at refused
    cases refused
  | error error =>
    rw [outcome] at refused
    exact congrArg Except.error (Option.some.inj refused)

end ClassFile
end ClassRename
