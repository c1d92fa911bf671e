import ClassRename.Proofs.ClassFile.Writing

namespace ClassRename
open Effects

theorem Code.wellFormed_of_parse {name : UInt16} (named : pool.text name = .ok attributeName)
    (parsed : StoredCode.parse data = .ok stored) (decoded : Body.decode pool stored.code = .ok body) :
    WellFormed pool (stored.withBody name body) := by
  obtain ⟨_, nonempty, _, handlers, attributes⟩ := StoredCode.parse_ok_iff.mp parsed
  obtain ⟨starts, decodes⟩ := Body.decode_ok_iff.mp decoded
  refine ⟨⟨name, rfl, named⟩, ?_, decodes.wellFormed, decodes.counted, handlers, attributes.1⟩
  intro empty
  exact nonempty (List.length_eq_zero_iff.mpr ((Body.decode_nil_iff decoded).mpr empty))

theorem MethodAttribute.Resolved.wellFormed (resolved : Resolved pool entry item) :
    WellFormed pool item := by
  cases resolved with
  | code named parsed decoded => exact .code (Code.wellFormed_of_parse named parsed decoded)
  | other named different => exact .other named different

theorem Method.Resolved.wellFormed (resolved : Resolved pool stored method)
    (counted : stored.attributes.length < 65536) : WellFormed pool method := by
  obtain ⟨_, nameIndex, descriptorIndex, name, descriptor, attributes⟩ := resolved
  refine ⟨⟨_, nameIndex, name⟩, ⟨_, descriptorIndex, descriptor⟩, attributes.length_eq ▸ counted,
    fun item member => ?_⟩
  obtain ⟨entry, _, resolved⟩ := forall₂_partner attributes member
  exact resolved.wellFormed

namespace ClassFile

structure WellFormed (file : ClassFile) : Prop where
  pool : file.pool.Built
  named : ∃ text, file.pool.encodedClassName file.thisClass = .ok text
  interfaces : file.interfaces.length < 65536
  fields : file.fields.length < 65536 ∧ ∀ field ∈ file.fields, Attribute.ListFits field.attributes
  counted : file.methods.length < 65536
  methods : ∀ method ∈ file.methods, method.WellFormed file.pool
  attributes : Attribute.ListFits file.attributes

structure Alike (agree : Instruction → Instruction → Prop) (before after : ClassFile) : Prop where
  minorVersion : after.minorVersion = before.minorVersion
  majorVersion : after.majorVersion = before.majorVersion
  pool : Pool.Extends before.pool after.pool
  flags : after.flags = before.flags
  thisClass : after.thisClass = before.thisClass
  superClass : after.superClass = before.superClass
  interfaces : after.interfaces = before.interfaces
  fields : after.fields = before.fields
  methods : List.Forall₂ (Method.Alike agree) before.methods after.methods
  attributes : after.attributes = before.attributes

theorem wellFormed_of_parse (parsed : parse data = .ok file) : file.WellFormed := by
  obtain ⟨stored, read, resolved⟩ := parse_ok_iff.mp parsed
  obtain ⟨_, built, interfaces, fields, ⟨counted, fit⟩, attributes⟩ := StoredClass.parse_ok_iff.mp read
  obtain ⟨_, _, pool, _, thisClass, _, implemented, listed, last, named, methods⟩ := resolved
  rw [← pool] at built named methods
  rw [← thisClass] at named
  refine ⟨built, named, implemented ▸ interfaces, listed ▸ fields, methods.length_eq ▸ counted,
    fun method member => ?_, last ▸ attributes⟩
  obtain ⟨entry, present, resolved⟩ := forall₂_partner methods member
  exact resolved.wellFormed (fit entry present).1

def storedWith (file : ClassFile) (pool : Pool) (methods : List Field) : StoredClass :=
  ⟨file.minorVersion, file.majorVersion, pool, file.flags, file.thisClass, file.superClass,
    file.interfaces, file.fields, methods, file.attributes⟩

theorem toBytes_of_methods {file : ClassFile} {pool : Pool} {stored : List Field} {before after : Log}
    (ran : file.methods.mapM Method.toBytes ⟨file.pool, before⟩ =
      .ok (stored.map Field.toBytes) ⟨pool, after⟩) :
    file.toBytes before = .ok (file.storedWith pool stored).toBytes after := by
  unfold toBytes
  rw [ran]
  simp [StoredClass.toBytes, storedWith, Bytes.count, List.flatMap_def]

theorem toBytes_sound {file : ClassFile} {before after : Log} (wellFormed : file.WellFormed)
    (ran : file.toBytes before = .ok written after) :
    ∃ pool stored, file.pool.Grown pool ∧ written = (file.storedWith pool stored).toBytes ∧
      List.Forall₂ (Method.Written pool) file.methods stored := by
  cases wrote : file.methods.mapM Method.toBytes ⟨file.pool, before⟩ with
  | error error left =>
    unfold toBytes at ran
    rw [wrote] at ran
    cases ran
  | ok bytes left =>
    obtain ⟨grown, stored, rfl, all⟩ := Writing.mapM_sound Method.WellFormed Method.Written wrote
      wellFormed.pool.sound wellFormed.methods (fun _ _ _ extended known => known.extends extended)
      (fun _ _ _ _ extended written => written.extends extended)
      (fun _ _ _ _ sound known ran => Method.toBytes_sound sound known ran)
    rw [toBytes_of_methods wrote] at ran
    cases ran
    exact ⟨left.pool, stored, grown, rfl, all⟩

theorem toBytes_still (resolved : StoredClass.Resolved stored file)
    (still : List.Forall₂ (fun (entry : Field) (method : Method) =>
      Writing.Still stored.pool method.toBytes entry.toBytes) stored.methods file.methods)
    (log : Log) : file.toBytes log = .ok stored.toBytes log := by
  obtain ⟨minorVersion, majorVersion, pool, flags, thisClass, superClass, interfaces, fields,
    attributes, _, _⟩ := resolved
  have ran := Writing.still_mapM still log
  rw [← pool] at ran
  rw [toBytes_of_methods ran, storedWith, minorVersion, majorVersion, pool, flags, thisClass,
    superClass, interfaces, fields, attributes]

-- Bytes of a class in whose bodies nothing stands that the instructions do not say.
def Plain (data : Bytes) : Prop :=
  ∀ stored, StoredClass.parse data = .ok stored → ∀ method ∈ stored.methods,
    ∀ entry ∈ method.attributes, stored.pool.text entry.name = .ok Code.attributeName →
      ∀ code, StoredCode.parse entry.data = .ok code →
        ∀ body, Body.decode stored.pool code.code = .ok body → Body.Plain code.code body

theorem toBytes_of_parse (parsed : parse data = .ok file) (plain : Plain data) (log : Log) :
    file.toBytes log = .ok data log := by
  obtain ⟨stored, read, resolved⟩ := parse_ok_iff.mp parsed
  obtain ⟨rfl, _⟩ := StoredClass.parse_ok_iff.mp read
  refine toBytes_still resolved ?_ log
  have bodies := plain stored read
  refine ((List.forall₂_and_left _ _).mpr ⟨bodies, resolved.methods⟩).imp ?_
  intro method _ paired
  rcases paired with ⟨entries, resolved⟩
  refine Method.toBytes_still resolved ?_
  refine ((List.forall₂_and_left _ _).mpr ⟨entries, resolved.attributes⟩).imp ?_
  intro entry _ paired
  rcases entry with ⟨name, payload⟩
  rcases paired with ⟨plain, found⟩
  cases found with
  | code named parsed decoded =>
    obtain ⟨rfl, fits⟩ := StoredCode.parse_ok_iff.mp parsed
    have encoded := Body.encode_plain decoded (plain named _ parsed _ decoded) fits.short
    exact Code.toBytes_still named encoded fits.short
  | other => exact fun _ => rfl

def dispatchCode : Bytes :=
  [0x12, 2, 0xAA, 0, 0, 0, 0, 18, 0, 0, 0, 0, 0, 0, 0, 0, 0, 0, 0, 18, 0xB1]

def dispatchClass : Bytes :=
  [0xCA, 0xFE, 0xBA, 0xBE, 0, 0, 0, 52, 0, 6, 1, 0, 1, 65, 7, 0, 1, 1, 0, 4, 67, 111, 100, 101,
    1, 0, 3, 40, 41, 86, 1, 0, 1, 0xFF, 0, 33, 0, 2, 0, 0, 0, 0, 0, 0, 0, 1, 0, 1, 0, 5, 0, 4,
    0, 1, 0, 3, 0, 0, 0, 33, 0, 1, 0, 1, 0, 0, 0, 21] ++ dispatchCode ++ [0, 0, 0, 0, 0, 0]

theorem dispatchClass_plain : Plain dispatchClass := by
  have whole : (StoredClass.parse dispatchClass).toOption.map
      (fun stored => (stored.methods, (Body.decode stored.pool dispatchCode).toOption.map
        fun body => (body.instructions, body.offsets))) =
      some ([⟨1, 5, 4, [⟨3, [0, 1, 0, 1, 0, 0, 0, 21] ++ dispatchCode ++ [0, 0, 0, 0]⟩]⟩],
        some ([.load ⟨0x12, .type "A", some 2⟩, .tableSwitch 2 0 0 [2], .other 0xB1 []],
          #[0, 2, 20, 21])) := by
    decide +kernel
  intro stored read method defined entry listed _ code parsed body decoded
  rw [read] at whole
  simp only [Except.toOption, Option.map_some, Option.some.injEq, Prod.mk.injEq] at whole
  obtain ⟨methods, instructions⟩ := whole
  rw [methods, List.mem_singleton] at defined
  subst defined
  rw [List.mem_singleton] at listed
  subst listed
  have held : (StoredCode.parse ([0, 1, 0, 1, 0, 0, 0, 21] ++ dispatchCode ++ [0, 0, 0, 0])).map
      (·.code) = .ok dispatchCode := by
    rfl
  rw [parsed] at held
  obtain same : code.code = dispatchCode := by injection held
  rw [same] at decoded ⊢
  rw [decoded] at instructions
  obtain ⟨instructions, offsets⟩ : body.instructions = _ ∧ body.offsets = _ := by
    simpa using instructions
  intro position start instruction begun present
  rw [offsets] at begun
  rw [instructions] at present
  rcases position with _ | _ | _ | position <;> cases present
  · cases begun
    exact ⟨by decide, by decide, fun _ same _ => by cases same; rfl⟩
  · cases begun
    exact ⟨by decide, by decide, fun _ same => by cases same⟩
  · cases begun
    exact ⟨by decide, by decide, fun _ same => by cases same⟩

theorem dispatchClass_unchanged : ∃ file, parse dispatchClass = .ok file ∧
    Plain dispatchClass ∧ ∀ log, file.toBytes log = .ok dispatchClass log := by
  have accepted : (parse dispatchClass).toOption.isSome = true := by decide +kernel
  cases parsed : parse dispatchClass with
  | error error => rw [parsed] at accepted; cases accepted
  | ok file =>
    exact ⟨file, rfl, dispatchClass_plain, toBytes_of_parse parsed dispatchClass_plain⟩

end ClassFile
end ClassRename
