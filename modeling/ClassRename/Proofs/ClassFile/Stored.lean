import ClassRename.ClassFile.Basic
import ClassRename.Proofs.Pool.Codec

namespace ClassRename
open Effects Cursor

theorem Attribute.codec :
    Scan.Codec Attribute.read Attribute.toBytes (fun entry => entry.data.length < 2 ^ 32) := by
  constructor
  · intro entry data position rest short
    have size : (UInt32.ofNat entry.data.length).toNat = entry.data.length :=
      UInt32.toNat_ofNat_of_lt' short
    have taken := (Scan.bytes_codec entry.data.length).complete entry.data data (position + 2 + 4)
      rest rfl
    rw [Attribute.toBytes, Bytes.length_toNat_ofNat _ short]
    simp only [id] at taken
    simp only [Attribute.read, List.append_assoc, bind_apply, Scan.u16_apply, Scan.u32_apply, size,
      taken, pure_apply, List.length_append, Bytes.length_u16, Bytes.length_u32, Nat.add_assoc]
  · intro before entry after read
    simp only [Attribute.read, run_bind_iff, run_pure_iff] at read
    obtain ⟨name, middle, named, size, last, sized, found, _, taken, rfl, rfl⟩ := read
    obtain ⟨width, passed⟩ := (Scan.bytes_codec _).sound _ _ _ taken
    have short : found.length < 2 ^ 32 := width ▸ size.toNat_lt
    refine ⟨short, ((Scan.u16_codec.sound _ _ _ named).2.trans
      ((Scan.u32_codec.sound _ _ _ sized).2.trans passed)).congr ?_⟩
    rw [Attribute.toBytes, Bytes.length_toNat_ofNat _ short, width, UInt32.ofNat_toNat,
      List.append_assoc]
    rfl

theorem Attribute.toBytes_inj {left right : Attribute} (same : left.toBytes = right.toBytes) :
    left = right := by
  obtain ⟨name, data⟩ := left
  obtain ⟨other, payload⟩ := right
  obtain ⟨header, rfl⟩ := List.append_inj same (by simp [Bytes.length_ofNat])
  obtain ⟨names, _⟩ := List.append_inj header (by simp)
  have back := congrArg (fun bytes => UInt16.ofNat (Bytes.toNat bytes)) names
  dsimp only at back
  rw [Bytes.u16_toNat, Bytes.u16_toNat] at back
  rw [back]

-- A list of attributes that the format's counts and lengths can state.
def Attribute.ListFits (entries : List Attribute) : Prop :=
  entries.length < 65536 ∧ ∀ entry ∈ entries, entry.data.length < 2 ^ 32

theorem Attribute.list_codec :
    Scan.Codec Attribute.readList Attribute.listToBytes Attribute.ListFits :=
  Scan.counted_codec Attribute.codec

theorem Attribute.data_le {entries : List Attribute} (member : entry ∈ entries) :
    entry.data.length ≤ (Attribute.listToBytes entries).length := by
  have part := (List.sublist_flatten_of_mem (List.mem_map_of_mem (f := toBytes) member)).length_le
  rw [← List.flatMap_def] at part
  rw [listToBytes, List.length_append]
  rw [toBytes, List.length_append] at part
  omega

theorem Handler.codec : Scan.Codec Handler.read Handler.toBytes (fun _ => True) := by
  constructor
  · intro handler data position rest _
    simp [Handler.read, Handler.toBytes, Nat.add_assoc]
  · intro before handler after read
    simp only [Handler.read, run_bind_iff, run_pure_iff] at read
    obtain ⟨start, _, first, stop, _, second, entry, _, third, catchType, _, fourth, rfl, rfl⟩ := read
    exact ⟨trivial, (((Scan.u16_codec.sound _ _ _ first).2.trans
      (Scan.u16_codec.sound _ _ _ second).2).trans (Scan.u16_codec.sound _ _ _ third).2).trans
        (Scan.u16_codec.sound _ _ _ fourth).2⟩

theorem Field.codec :
    Scan.Codec Field.read Field.toBytes (fun field => Attribute.ListFits field.attributes) := by
  constructor
  · intro field data position rest fits
    have listed := Attribute.list_codec.complete field.attributes data (position + 2 + 2 + 2) rest fits
    simp only [Field.read, Field.toBytes, List.append_assoc, bind_apply, Scan.u16_apply, listed,
      pure_apply, List.length_append, Bytes.length_u16, Nat.add_assoc]
  · intro before field after read
    simp only [Field.read, run_bind_iff, run_pure_iff] at read
    obtain ⟨flags, _, first, name, _, second, descriptor, _, third, entries, _, listed, rfl, rfl⟩ := read
    obtain ⟨fits, passed⟩ := Attribute.list_codec.sound _ _ _ listed
    exact ⟨fits, (((Scan.u16_codec.sound _ _ _ first).2.trans
      (Scan.u16_codec.sound _ _ _ second).2).trans (Scan.u16_codec.sound _ _ _ third).2).trans passed⟩

theorem Field.data_le {fields : List Field} (member : field ∈ fields)
    (inside : entry ∈ field.attributes) :
    entry.data.length ≤ (fields.flatMap Field.toBytes).length := by
  have part := (List.sublist_flatten_of_mem (List.mem_map_of_mem (f := toBytes) member)).length_le
  rw [← List.flatMap_def, toBytes, List.length_append] at part
  have nested := Attribute.data_le inside
  omega

structure StoredCode where
  maxStack : UInt16
  maxLocals : UInt16
  code : Bytes
  handlers : List Handler
  attributes : List Attribute

namespace StoredCode

def read : Scan StoredCode := do
  let maxStack ← Scan.u16
  let maxLocals ← Scan.u16
  let length := (← Scan.u32).toNat
  if length = 0 ∨ Body.maxLength < length then Scan.fail (.invalidCodeLength length)
  let code ← Scan.bytes length
  let handlers ← Scan.counted Handler.read
  let attributes ← Attribute.readList
  Scan.finished .trailingAfterCode
  return ⟨maxStack, maxLocals, code, handlers, attributes⟩

def parse (data : Bytes) : Except Error StoredCode := read.run data

def toBytes (stored : StoredCode) : Bytes :=
  Bytes.u16 stored.maxStack ++ (Bytes.u16 stored.maxLocals ++
    (Bytes.u32 (UInt32.ofNat stored.code.length) ++ (stored.code ++
      ((Bytes.count stored.handlers ++ stored.handlers.flatMap Handler.toBytes) ++
        Attribute.listToBytes stored.attributes))))

theorem data_le {stored : StoredCode} (member : entry ∈ stored.attributes) :
    entry.data.length ≤ stored.toBytes.length := by
  have part := Attribute.data_le member
  simp only [toBytes, List.length_append]
  omega

structure Fits (stored : StoredCode) : Prop where
  nonempty : stored.code.length ≠ 0
  short : stored.code.length ≤ Body.maxLength
  handlers : stored.handlers.length < 65536
  attributes : Attribute.ListFits stored.attributes

theorem parse_ok_iff {data : Bytes} : parse data = .ok stored ↔ stored.toBytes = data ∧ stored.Fits := by
  unfold parse
  rw [Scan.run_ok_iff]
  simp only [read, run_bind_iff, run_pure_iff, Scan.guard_ok_iff, Scan.finished_ok_iff]
  constructor
  · intro stated
    rcases stated with ⟨_, maxStack, _, first, maxLocals, _, second, length, _, third, valid, code, _, fourth,
      handlers, _, fifth, attributes, last, sixth, _, _, ⟨ended, rfl⟩, rfl, rfl⟩
    obtain ⟨width, passedCode⟩ := (Scan.bytes_codec _).sound _ _ _ fourth
    obtain ⟨⟨few, _⟩, passedHandlers⟩ := (Scan.counted_codec Handler.codec).sound _ _ _ fifth
    obtain ⟨fits, passedAttributes⟩ := Attribute.list_codec.sound _ _ _ sixth
    have passed := (Scan.u16_codec.sound _ _ _ first).2.trans
      ((Scan.u16_codec.sound _ _ _ second).2.trans ((Scan.u32_codec.sound _ _ _ third).2.trans
        (passedCode.trans (passedHandlers.trans passedAttributes))))
    have size : code.length = length.toNat := width
    have nonempty : code.length ≠ 0 := by omega
    have short : code.length ≤ Body.maxLength := by omega
    refine ⟨?_, nonempty, short, few, fits⟩
    rw [← passed.whole ended, toBytes, size, UInt32.ofNat_toNat]
    rfl
  · intro stated
    rcases stated with ⟨rfl, nonempty, short, handlers, attributes⟩
    have size : (UInt32.ofNat stored.code.length).toNat = stored.code.length :=
      UInt32.toNat_ofNat_of_lt' (Nat.lt_of_le_of_lt short (by decide))
    obtain ⟨_, first, passed⟩ := (Cursor.passed_all stored.toBytes).split
    obtain ⟨_, second, passed⟩ := passed.split
    obtain ⟨_, third, passed⟩ := passed.split
    obtain ⟨_, fourth, passed⟩ := passed.split
    obtain ⟨_, fifth, sixth⟩ := passed.split
    refine ⟨_, _, _, Scan.u16_codec.read trivial first, _, _, Scan.u16_codec.read trivial second,
      _, _, Scan.u32_codec.read trivial third, by omega, _, _,
      (Scan.bytes_codec _).read (by rw [size]) fourth, _, _,
      (Scan.counted_codec Handler.codec).read ⟨handlers, fun _ _ => trivial⟩ fifth, _, _,
      Attribute.list_codec.read attributes sixth, (), _, ⟨rfl, rfl⟩, rfl, rfl⟩

end StoredCode

structure StoredClass where
  minorVersion : UInt16
  majorVersion : UInt16
  pool : Pool
  flags : UInt16
  thisClass : UInt16
  superClass : UInt16
  interfaces : List UInt16
  fields : List Field
  methods : List Field
  attributes : List Attribute

namespace StoredClass

def read : Scan StoredClass := do
  ClassFile.readMagic
  let minorVersion ← Scan.u16
  let majorVersion ← Scan.u16
  let pool ← Scan.pool
  let flags ← Scan.u16
  let thisClass ← Scan.u16
  let superClass ← Scan.u16
  let interfaces ← Scan.counted Scan.u16
  let fields ← Scan.counted Field.read
  let methods ← Scan.counted Field.read
  let attributes ← Attribute.readList
  Scan.finished .trailingAfterClass
  return ⟨minorVersion, majorVersion, pool, flags, thisClass, superClass, interfaces, fields,
    methods, attributes⟩

def parse (data : Bytes) : Except Error StoredClass := read.run data

def toBytes (stored : StoredClass) : Bytes :=
  Bytes.u32 ClassFile.magic ++ (Bytes.u16 stored.minorVersion ++ (Bytes.u16 stored.majorVersion ++
    (stored.pool.toBytes ++ (Bytes.u16 stored.flags ++ (Bytes.u16 stored.thisClass ++
      (Bytes.u16 stored.superClass ++
        ((Bytes.count stored.interfaces ++ stored.interfaces.flatMap Bytes.u16) ++
          ((Bytes.count stored.fields ++ stored.fields.flatMap Field.toBytes) ++
            ((Bytes.count stored.methods ++ stored.methods.flatMap Field.toBytes) ++
              Attribute.listToBytes stored.attributes)))))))))

theorem data_le {stored : StoredClass} (member : method ∈ stored.methods)
    (inside : entry ∈ method.attributes) : entry.data.length ≤ stored.toBytes.length := by
  have part := Field.data_le member inside
  simp only [toBytes, List.length_append]
  omega

structure Fits (stored : StoredClass) : Prop where
  pool : stored.pool.Built
  interfaces : stored.interfaces.length < 65536
  fields : stored.fields.length < 65536 ∧
    ∀ field ∈ stored.fields, Attribute.ListFits field.attributes
  methods : stored.methods.length < 65536 ∧
    ∀ method ∈ stored.methods, Attribute.ListFits method.attributes
  attributes : Attribute.ListFits stored.attributes

theorem readMagic_ok_iff : ClassFile.readMagic before = .ok value after ↔
    Passed (Bytes.u32 ClassFile.magic) before after := by
  simp only [ClassFile.readMagic, run_bind_iff]
  constructor
  · intro stated
    rcases stated with ⟨found, middle, taken, shown⟩
    split at shown
    · cases shown
    · rename_i known
      obtain ⟨_, rfl⟩ := run_pure_iff.mp shown
      rw [← not_not.mp known]
      exact (Scan.u32_codec.sound _ _ _ taken).2
  · intro passed
    exact ⟨_, after, Scan.u32_codec.read trivial passed, by simp⟩

theorem parse_ok_iff {data : Bytes} : parse data = .ok stored ↔ stored.toBytes = data ∧ stored.Fits := by
  unfold parse
  rw [Scan.run_ok_iff]
  simp only [read, run_bind_iff, run_pure_iff, readMagic_ok_iff, Scan.finished_ok_iff]
  constructor
  · intro stated
    rcases stated with ⟨_, _, _, magic, minorVersion, _, minor, majorVersion, _, major, pool, _, constants,
      flags, _, flagged, thisClass, _, this, superClass, _, super, interfaces, _, implemented,
      fields, _, listed, methods, _, defined, attributes, last, ending, _, _, ⟨ended, rfl⟩, rfl, rfl⟩
    obtain ⟨built, passedPool⟩ := Scan.pool_codec.sound _ _ _ constants
    obtain ⟨⟨few, _⟩, passedInterfaces⟩ := (Scan.counted_codec Scan.u16_codec).sound _ _ _ implemented
    obtain ⟨fieldsFit, passedFields⟩ := (Scan.counted_codec Field.codec).sound _ _ _ listed
    obtain ⟨methodsFit, passedMethods⟩ := (Scan.counted_codec Field.codec).sound _ _ _ defined
    obtain ⟨fits, passedAttributes⟩ := Attribute.list_codec.sound _ _ _ ending
    have passed := magic.trans ((Scan.u16_codec.sound _ _ _ minor).2.trans
      ((Scan.u16_codec.sound _ _ _ major).2.trans (passedPool.trans
        ((Scan.u16_codec.sound _ _ _ flagged).2.trans ((Scan.u16_codec.sound _ _ _ this).2.trans
          ((Scan.u16_codec.sound _ _ _ super).2.trans (passedInterfaces.trans
            (passedFields.trans (passedMethods.trans passedAttributes)))))))))
    exact ⟨passed.whole ended, built, few, fieldsFit, methodsFit, fits⟩
  · intro stated
    rcases stated with ⟨rfl, built, interfaces, fields, methods, attributes⟩
    obtain ⟨_, magic, passed⟩ := (Cursor.passed_all stored.toBytes).split
    obtain ⟨_, minor, passed⟩ := passed.split
    obtain ⟨_, major, passed⟩ := passed.split
    obtain ⟨_, constants, passed⟩ := passed.split
    obtain ⟨_, flagged, passed⟩ := passed.split
    obtain ⟨_, this, passed⟩ := passed.split
    obtain ⟨_, super, passed⟩ := passed.split
    obtain ⟨_, implemented, passed⟩ := passed.split
    obtain ⟨_, listed, passed⟩ := passed.split
    obtain ⟨_, defined, ending⟩ := passed.split
    exact ⟨_, (), _, magic, _, _, Scan.u16_codec.read trivial minor, _, _,
      Scan.u16_codec.read trivial major, _, _, Scan.pool_codec.read built constants, _, _,
      Scan.u16_codec.read trivial flagged, _, _, Scan.u16_codec.read trivial this, _, _,
      Scan.u16_codec.read trivial super, _, _,
      (Scan.counted_codec Scan.u16_codec).read ⟨interfaces, fun _ _ => trivial⟩ implemented, _, _,
      (Scan.counted_codec Field.codec).read fields listed, _, _,
      (Scan.counted_codec Field.codec).read methods defined, _, _,
      Attribute.list_codec.read attributes ending, (), _, ⟨rfl, rfl⟩, rfl, rfl⟩

end StoredClass
end ClassRename
