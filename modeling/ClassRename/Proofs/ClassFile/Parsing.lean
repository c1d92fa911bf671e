import ClassRename.Proofs.Body.Plain
import ClassRename.Proofs.ClassFile.Stored

namespace ClassRename
open Effects Cursor

namespace Body

theorem decode_extends (extended : Pool.Extends earlier later) (decoded : decode earlier code = .ok body) :
    decode later code = .ok body := by
  obtain ⟨starts, offsets, walk, inside⟩ := decode_ok_iff.mp decoded
  exact decode_ok_iff.mpr ⟨starts, offsets, walk.extends extended, inside⟩

end Body

def StoredCode.withBody (stored : StoredCode) (name : UInt16) (body : DecodedBody) : Code :=
  ⟨some name, stored.maxStack, stored.maxLocals, body.instructions, stored.handlers,
    stored.attributes, some body.offsets⟩

theorem Code.read_ok_iff {name : UInt16} {data : Bytes} : (Code.read name pool).run data = .ok code ↔
    ∃ stored body, StoredCode.parse data = .ok stored ∧ Body.decode pool stored.code = .ok body ∧
      code = stored.withBody name body := by
  unfold StoredCode.parse
  simp only [Scan.run_ok_iff, Code.read, StoredCode.read, run_bind_iff, run_pure_iff,
    Scan.guard_ok_iff, Scan.lift_ok_iff]
  constructor
  · intro stated
    rcases stated with ⟨_, maxStack, _, first, maxLocals, _, second, length, _, third, valid, bytes, _,
      fourth, body, _, ⟨decoded, rfl⟩, handlers, _, fifth, attributes, _, sixth, _, _, ended, rfl, rfl⟩
    exact ⟨_, body, ⟨_, maxStack, _, first, maxLocals, _, second, length, _, third, valid, bytes, _,
      fourth, handlers, _, fifth, attributes, _, sixth, (), _, ended, rfl, rfl⟩, decoded, rfl⟩
  · intro stated
    rcases stated with ⟨_, body, ⟨_, maxStack, _, first, maxLocals, _, second, length, _, third, valid,
      bytes, _, fourth, handlers, _, fifth, attributes, _, sixth, _, _, ended, rfl, rfl⟩, decoded, rfl⟩
    exact ⟨_, maxStack, _, first, maxLocals, _, second, length, _, third, valid, bytes, _, fourth,
      body, _, ⟨decoded, rfl⟩, handlers, _, fifth, attributes, _, sixth, (), _, ended, rfl, rfl⟩

namespace MethodAttribute

inductive Resolved (pool : Pool) (entry : Attribute) : MethodAttribute → Prop where
  | code (named : pool.text entry.name = .ok Code.attributeName)
      (parsed : StoredCode.parse entry.data = .ok stored)
      (decoded : Body.decode pool stored.code = .ok body) :
      Resolved pool entry (.code (stored.withBody entry.name body))
  | other (named : pool.encodedText entry.name = .ok text)
      (different : text.text? ≠ some Code.attributeName) : Resolved pool entry (.other entry)

theorem ofAttribute_ok_iff : ofAttribute pool entry = .ok found ↔ Resolved pool entry found := by
  simp only [ofAttribute, bind_ok_iff]
  constructor
  · intro stated
    rcases stated with ⟨text, named, shown⟩
    split at shown
    · rename_i body
      simp only [bind_ok_iff, pure_ok_iff] at shown
      obtain ⟨code, read, rfl⟩ := shown
      obtain ⟨stored, decoded, parsed, instructions, rfl⟩ := Code.read_ok_iff.mp read
      exact .code (Pool.text_ok_iff.mpr ⟨text, named, body⟩) parsed instructions
    · rename_i different
      obtain rfl := pure_ok_iff.mp shown
      exact .other named different
  · intro resolved
    cases resolved with
    | @code stored body named parsed decoded =>
      obtain ⟨text, encoded, same⟩ := Pool.text_ok_iff.mp named
      refine ⟨text, encoded, ?_⟩
      rw [if_pos same]
      simp only [bind_ok_iff, pure_ok_iff]
      exact ⟨_, Code.read_ok_iff.mpr ⟨stored, body, parsed, decoded, rfl⟩, rfl⟩
    | other named different =>
      refine ⟨_, named, ?_⟩
      rw [if_neg different]
      rfl

end MethodAttribute

namespace Method

structure Resolved (pool : Pool) (stored : Field) (method : Method) : Prop where
  flags : method.flags = stored.flags
  nameIndex : method.nameIndex = some stored.name
  descriptorIndex : method.descriptorIndex = some stored.descriptor
  name : pool.Shows stored.name method.name
  descriptor : pool.Shows stored.descriptor method.descriptor
  attributes : List.Forall₂ (MethodAttribute.Resolved pool) stored.attributes method.attributes

def ofStored (pool : Pool) (stored : Field) : Except Error Method := do
  let attributes ← stored.attributes.mapM (MethodAttribute.ofAttribute pool)
  let name ← pool.encodedText stored.name
  let descriptor ← pool.encodedText stored.descriptor
  return ⟨stored.flags, name.lossy, descriptor.lossy, attributes, some stored.name,
    some stored.descriptor⟩

theorem ofStored_ok_iff : ofStored pool stored = .ok method ↔ Resolved pool stored method := by
  simp only [ofStored, bind_ok_iff, pure_ok_iff, mapM_ok_iff, MethodAttribute.ofAttribute_ok_iff]
  constructor
  · intro stated
    rcases stated with ⟨attributes, all, name, named, descriptor, described, rfl⟩
    exact ⟨rfl, rfl, rfl, ⟨name, named, rfl⟩, ⟨descriptor, described, rfl⟩, all⟩
  · intro stated
    rcases stated with ⟨flags, nameIndex, descriptorIndex, ⟨name, named, read⟩,
      ⟨descriptor, described, told⟩, attributes⟩
    refine ⟨_, attributes, _, named, _, described, ?_⟩
    cases method
    simp_all

theorem read_eq (pool : Pool) :
    Method.read pool = (do Scan.lift (ofStored pool (← Field.read))) := by
  simp only [Method.read, Field.read, ofStored, bind_assoc, pure_bind, Scan.lift_bind, Scan.lift_pure]

end Method

structure StoredClass.Resolved (stored : StoredClass) (file : ClassFile) : Prop where
  minorVersion : file.minorVersion = stored.minorVersion
  majorVersion : file.majorVersion = stored.majorVersion
  pool : file.pool = stored.pool
  flags : file.flags = stored.flags
  thisClass : file.thisClass = stored.thisClass
  superClass : file.superClass = stored.superClass
  interfaces : file.interfaces = stored.interfaces
  fields : file.fields = stored.fields
  attributes : file.attributes = stored.attributes
  named : ∃ text, stored.pool.encodedClassName stored.thisClass = .ok text
  methods : List.Forall₂ (Method.Resolved stored.pool) stored.methods file.methods

theorem ClassFile.parse_ok_iff {data : Bytes} : ClassFile.parse data = .ok file ↔
    ∃ stored, StoredClass.parse data = .ok stored ∧ stored.Resolved file := by
  unfold ClassFile.parse StoredClass.parse
  simp only [Scan.run_ok_iff, ClassFile.readAll, StoredClass.read, run_bind_iff, run_pure_iff,
    Scan.lift_ok_iff, Method.read_eq, Scan.counted_lift_iff, Method.ofStored_ok_iff]
  constructor
  · intro stated
    rcases stated with ⟨_, _, _, magic, minorVersion, _, minor, majorVersion, _, major, pool, _,
      constants, flags, _, flagged, thisClass, _, this, superClass, _, super, text, _, ⟨named, rfl⟩,
      interfaces, _, implemented, fields, _, listed, methods, _, ⟨given, defined, resolved⟩, attributes, _,
      ending, _, _, ended, rfl, rfl⟩
    exact ⟨_, ⟨_, (), _, magic, minorVersion, _, minor, majorVersion, _, major, pool, _, constants,
      flags, _, flagged, thisClass, _, this, superClass, _, super, interfaces, _, implemented, fields,
      _, listed, given, _, defined, attributes, _, ending, (), _, ended, rfl, rfl⟩,
      rfl, rfl, rfl, rfl, rfl, rfl, rfl, rfl, rfl, ⟨text, named⟩, resolved⟩
  · intro stated
    rcases stated with ⟨_, ⟨_, _, _, magic, minorVersion, _, minor, majorVersion, _, major, pool, _,
      constants, flags, _, flagged, thisClass, _, this, superClass, _, super, interfaces, _, implemented, fields,
      _, listed, given, _, defined, attributes, _, ending, _, _, ended, rfl, rfl⟩, resolved⟩
    obtain ⟨rfl, rfl, rfl, rfl, rfl, rfl, rfl, rfl, rfl, ⟨text, named⟩, methods⟩ := resolved
    exact ⟨_, (), _, magic, _, _, minor, _, _, major, _, _, constants, _, _, flagged, _, _, this, _, _,
      super, text, _, ⟨named, rfl⟩, _, _, implemented, _, _, listed, _, _, ⟨given, defined, methods⟩, _,
      _, ending, (), _, ended, rfl, rfl⟩

-- The name stands in front of everything that a parse looks into later.
theorem ClassFile.peekName_of_parse {data : Bytes} (parsed : parse data = .ok file) :
    ∃ text, file.pool.encodedClassName file.thisClass = .ok text ∧ peekName data = .ok text.text? := by
  obtain ⟨stored, read, resolved⟩ := parse_ok_iff.mp parsed
  obtain ⟨rfl, fits⟩ := StoredClass.parse_ok_iff.mp read
  obtain ⟨text, named⟩ := resolved.named
  refine ⟨text, by rwa [resolved.pool, resolved.thisClass], ?_⟩
  obtain ⟨_, magic, passed⟩ := (Cursor.passed_all stored.toBytes).split
  obtain ⟨_, minor, passed⟩ := passed.split
  obtain ⟨_, major, passed⟩ := passed.split
  obtain ⟨_, constants, passed⟩ := passed.split
  obtain ⟨_, flags, passed⟩ := passed.split
  obtain ⟨_, this, _⟩ := passed.split
  unfold peekName
  simp only [Scan.run_ok_iff, readName, run_bind_iff, run_pure_iff, StoredClass.readMagic_ok_iff,
    Scan.advance_ok_iff, Scan.lift_ok_iff]
  exact ⟨_, (), _, magic, (), _, ⟨_, by simp, minor.trans major⟩, _, _,
    Scan.pool_codec.read fits.pool constants, (), _, ⟨_, by simp, flags⟩, _, _,
    Scan.u16_codec.read trivial this, text, _, ⟨named, rfl⟩, rfl, rfl⟩

end ClassRename
