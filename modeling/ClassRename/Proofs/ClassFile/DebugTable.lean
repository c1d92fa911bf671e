import ClassRename.ClassFile.DebugTable
import ClassRename.Proofs.Body.OffsetMap
import ClassRename.Proofs.Scan

namespace ClassRename
open Effects Cursor

namespace DebugTable

structure LineNumber where
  start : UInt16
  line : UInt16

structure LocalVariable where
  start : UInt16
  length : UInt16
  name : UInt16
  descriptor : UInt16
  slot : UInt16

namespace LineNumber

def read : Scan LineNumber := do
  return ⟨← Scan.u16, ← Scan.u16⟩

def toBytes (entry : LineNumber) : Bytes := Bytes.u16 entry.start ++ Bytes.u16 entry.line

theorem codec : Scan.Codec read toBytes (fun _ => True) := by
  constructor
  · intro entry data position rest _
    simp [read, toBytes, Nat.add_assoc]
  · intro before entry after taken
    simp only [read, run_bind_iff, run_pure_iff] at taken
    obtain ⟨start, _, first, line, _, second, rfl, rfl⟩ := taken
    exact ⟨trivial, (Scan.u16_codec.sound _ _ _ first).2.trans (Scan.u16_codec.sound _ _ _ second).2⟩

structure Moved (old new : Offsets) (before after : LineNumber) : Prop where
  start : Offsets.Moved old new before.start.toNat after.start.toNat
  line : after.line = before.line

end LineNumber

namespace LocalVariable

def read : Scan LocalVariable := do
  return ⟨← Scan.u16, ← Scan.u16, ← Scan.u16, ← Scan.u16, ← Scan.u16⟩

def toBytes (entry : LocalVariable) : Bytes :=
  Bytes.u16 entry.start ++ (Bytes.u16 entry.length ++ (Bytes.u16 entry.name ++
    (Bytes.u16 entry.descriptor ++ Bytes.u16 entry.slot)))

theorem codec : Scan.Codec read toBytes (fun _ => True) := by
  constructor
  · intro entry data position rest _
    simp [read, toBytes, Nat.add_assoc]
  · intro before entry after taken
    simp only [read, run_bind_iff, run_pure_iff] at taken
    obtain ⟨start, _, first, length, _, second, name, _, third, descriptor, _, fourth, slot, _, fifth,
      rfl, rfl⟩ := taken
    exact ⟨trivial, (Scan.u16_codec.sound _ _ _ first).2.trans
      ((Scan.u16_codec.sound _ _ _ second).2.trans ((Scan.u16_codec.sound _ _ _ third).2.trans
        ((Scan.u16_codec.sound _ _ _ fourth).2.trans (Scan.u16_codec.sound _ _ _ fifth).2)))⟩

structure Moved (old new : Offsets) (before after : LocalVariable) : Prop where
  start : Offsets.Moved old new before.start.toNat after.start.toNat
  stop : Offsets.Moved old new (before.start.toNat + before.length.toNat)
    (after.start.toNat + after.length.toNat)
  name : after.name = before.name
  descriptor : after.descriptor = before.descriptor
  slot : after.slot = before.slot

end LocalVariable

theorem lineNumber_sound {map : OffsetMap} (valid : map.Valid)
    (ran : lineNumber map before = .ok bytes after) :
    ∃ entry, LineNumber.read before = .ok entry after ∧
      ∃ moved, entry.Moved map.old map.new moved ∧ bytes = moved.toBytes := by
  simp only [lineNumber, run_bind_iff, run_pure_iff, Scan.lift_ok_iff] at ran
  obtain ⟨start, middle, first, line, _, second, newStart, _, ⟨found, rfl⟩, rfl, rfl⟩ := ran
  refine ⟨⟨start, line⟩, ?_, ⟨newStart, line⟩, ⟨valid.translate_ok_iff.mp found, rfl⟩, rfl⟩
  simp only [LineNumber.read, run_bind_iff, run_pure_iff]
  exact ⟨_, _, first, _, _, second, rfl, rfl⟩

theorem three_of_bytes (taken : Scan.bytes 6 before = .ok found after) :
    ∃ first second third middle last, Scan.u16 before = .ok first middle ∧
      Scan.u16 middle = .ok second last ∧ Scan.u16 last = .ok third after ∧
        found = Bytes.u16 first ++ (Bytes.u16 second ++ Bytes.u16 third) := by
  obtain ⟨width, passed⟩ := (Scan.bytes_codec 6).sound _ _ _ taken
  have number : ∀ part : Bytes, part.length = 2 →
      Bytes.u16 (UInt16.ofNat (Bytes.toNat part)) = part := fun part size =>
    Bytes.u16_ofBytes part size
  have split : found = Bytes.u16 (UInt16.ofNat (Bytes.toNat (found.take 2))) ++
      (Bytes.u16 (UInt16.ofNat (Bytes.toNat ((found.drop 2).take 2))) ++
        Bytes.u16 (UInt16.ofNat (Bytes.toNat (found.drop 4)))) := by
    rw [number _ (by simp [width]), number _ (by simp [width]), number _ (by simp [width])]
    rw [← List.append_assoc, ← List.take_add, List.take_append_drop]
  obtain ⟨_, first, passed⟩ := (Passed.congr passed split).split
  obtain ⟨_, second, third⟩ := passed.split
  exact ⟨_, _, _, _, _, Scan.u16_codec.read trivial first, Scan.u16_codec.read trivial second,
    Scan.u16_codec.read trivial third, split⟩

theorem localVariable_sound {map : OffsetMap} (valid : map.Valid)
    (ran : localVariable map before = .ok bytes after) :
    ∃ entry, LocalVariable.read before = .ok entry after ∧
      ∃ moved, entry.Moved map.old map.new moved ∧ bytes = moved.toBytes := by
  simp only [localVariable, run_bind_iff, run_pure_iff, Scan.guard_ok_iff, Scan.lift_ok_iff] at ran
  obtain ⟨start, _, first, length, _, second, inside, newStart, _, ⟨begun, rfl⟩, newStop, _,
    ⟨ended, rfl⟩, others, _, taken, rfl, rfl⟩ := ran
  obtain ⟨name, descriptor, slot, _, _, third, fourth, fifth, rfl⟩ := three_of_bytes taken
  have low : start.toNat + length.toNat < 65536 := by omega
  have stop := UInt16.toNat_ofNat_of_lt' low
  have moved := valid.translate_ok_iff.mp begun
  have reached := valid.translate_ok_iff.mp ended
  have range := valid.range moved reached (by omega)
  rw [stop, ← range] at reached
  refine ⟨⟨start, length, name, descriptor, slot⟩, ?_,
    ⟨newStart, newStop - newStart, name, descriptor, slot⟩, ⟨moved, reached, rfl, rfl, rfl⟩, ?_⟩
  · simp only [LocalVariable.read, run_bind_iff, run_pure_iff]
    exact ⟨_, _, first, _, _, second, _, _, third, _, _, fourth, _, _, fifth, rfl, rfl⟩
  · simp [LocalVariable.toBytes]

-- Two tables whose entries are related one by one. Bytes behind the entries do not count.
def Related (item : Scan α) (Gives : α → α → Prop) (before after : Bytes) : Prop :=
  ∃ given moved, (Scan.counted item).run before = .ok given ∧
    (Scan.counted item).run after = .ok moved ∧ List.Forall₂ Gives given moved

theorem remap_sound {data : Bytes} {item : Scan α} {write : α → Bytes} {Gives : α → α → Prop}
    {entry : OffsetMap → Scan Bytes} (codec : Scan.Codec item write (fun _ => True))
    (one : ∀ before bytes after, entry map before = .ok bytes after →
      ∃ raw, item before = .ok raw after ∧ ∃ moved, Gives raw moved ∧ bytes = write moved)
    (ran : (remap entry map).run data = .ok written) : Related item Gives data written := by
  obtain ⟨last, ran⟩ := Scan.run_ok_iff.mp ran
  simp only [remap, run_bind_iff, run_pure_iff] at ran
  obtain ⟨count, middle, first, pieces, _, taken, rfl, rfl⟩ := ran
  obtain ⟨given, read, related⟩ := Scan.times_sound one taken
  have chosen := forall₂_choose (R := Gives) (S := fun bytes value => bytes = write value ∧ True)
    (related.imp fun _ _ ⟨moved, gives, same⟩ => ⟨moved, gives, same, trivial⟩)
  obtain ⟨moved, gives, images⟩ := chosen
  obtain ⟨rfl, _⟩ := forall₂_image_iff.mp images
  obtain ⟨⟨counted, _⟩, _⟩ := (Scan.times_codec codec _).sound _ _ _ read
  have size : moved.length = count.toNat := gives.length_eq.symm.trans counted
  have few : moved.length < 65536 := size ▸ count.toNat_lt
  have back := (Scan.counted_codec codec).run (show _ ∧ _ from ⟨few, fun _ _ => trivial⟩)
  rw [Bytes.count_eq moved few, size, UInt16.ofNat_toNat, List.flatMap_def] at back
  exact ⟨given, moved, Scan.run_ok_iff.mpr ⟨_, run_bind_iff.mpr ⟨count, middle, first, read⟩⟩, back,
    gives⟩

end DebugTable
end ClassRename
