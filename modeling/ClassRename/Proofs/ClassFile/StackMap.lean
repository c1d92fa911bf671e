import ClassRename.ClassFile.StackMap
import ClassRename.Proofs.Body.OffsetMap
import ClassRename.Proofs.Scan

namespace ClassRename.StackMap
open Effects Cursor

namespace VerificationType

inductive Read (translate : UInt16 → Except Error UInt16) (before : Cursor) :
    VerificationType → Cursor → Prop where
  | plain (first : Scan.u8 before = .ok tag after) (low : tag ≤ 6) :
      Read translate before (.plain tag) after
  | object (first : Scan.u8 before = .ok 7 middle) (second : Scan.u16 middle = .ok index after) :
      Read translate before (.object index) after
  | uninitialized (first : Scan.u8 before = .ok 8 middle)
      (second : Scan.u16 middle = .ok offset after) (found : translate offset = .ok moved) :
      Read translate before (.uninitialized moved) after

theorem read_iff {translate : UInt16 → Except Error UInt16} :
    verificationType translate before = .ok value after ↔ Read translate before value after := by
  rw [verificationType, run_bind_iff]
  constructor
  · intro stated
    rcases stated with ⟨tag, middle, first, ran⟩
    split at ran
    · rename_i low
      obtain ⟨rfl, rfl⟩ := run_pure_iff.mp ran
      exact .plain first low
    · split at ran
      · rename_i same
        obtain ⟨index, _, second, ran⟩ := run_bind_iff.mp ran
        obtain ⟨rfl, rfl⟩ := run_pure_iff.mp ran
        exact .object (same ▸ first) second
      · split at ran
        · rename_i same
          obtain ⟨offset, _, second, ran⟩ := run_bind_iff.mp ran
          obtain ⟨moved, _, lifted, ran⟩ := run_bind_iff.mp ran
          obtain ⟨found, rfl⟩ := Scan.lift_ok_iff.mp lifted
          obtain ⟨rfl, rfl⟩ := run_pure_iff.mp ran
          exact .uninitialized (same ▸ first) second found
        · cases ran
  · intro read
    cases read with
    | @plain tag _ first low =>
      refine ⟨tag, after, first, ?_⟩
      rw [if_pos low]
      rfl
    | object first second => exact ⟨7, _, first, run_bind_iff.mpr ⟨_, _, second, rfl⟩⟩
    | uninitialized first second found =>
      refine ⟨8, _, first, run_bind_iff.mpr ⟨_, _, second, ?_⟩⟩
      simp [found]

def Fits : VerificationType → Prop
  | .plain tag => tag ≤ 6
  | _ => True

theorem codec : Scan.Codec (verificationType .ok) toBytes Fits := by
  constructor
  · intro value data position rest fits
    refine read_iff.mpr ?_
    cases value with
    | plain tag => exact .plain (Scan.u8_apply data position rest tag) fits
    | object index =>
      exact .object (Scan.u8_apply ..) (Scan.u16_apply data (position + 1) rest index)
    | uninitialized offset =>
      exact .uninitialized (Scan.u8_apply ..) (Scan.u16_apply data (position + 1) rest offset) rfl
  · intro before value after read
    cases read_iff.mp read with
    | plain first low => exact ⟨low, (Scan.u8_codec.sound _ _ _ first).2⟩
    | object first second =>
      exact ⟨trivial, (Scan.u8_codec.sound _ _ _ first).2.trans (Scan.u16_codec.sound _ _ _ second).2⟩
    | uninitialized first second found =>
      cases found
      exact ⟨trivial, (Scan.u8_codec.sound _ _ _ first).2.trans (Scan.u16_codec.sound _ _ _ second).2⟩

-- The same type; the offset of an object that is not initialized is that of the same instruction.
inductive Moved (old new : Offsets) : VerificationType → VerificationType → Prop where
  | plain : Moved old new (.plain tag) (.plain tag)
  | object : Moved old new (.object index) (.object index)
  | uninitialized (moved : Offsets.Moved old new before.toNat after.toNat) :
      Moved old new (.uninitialized before) (.uninitialized after)

theorem Moved.fits (moved : Moved old new raw value) (fits : raw.Fits) : value.Fits := by
  cases moved with
  | plain => exact fits
  | object | uninitialized => trivial

theorem moved_of_read {map : OffsetMap} (valid : map.Valid)
    (read : verificationType map.translate before = .ok value after) :
    ∃ raw, verificationType .ok before = .ok raw after ∧ raw.Moved map.old map.new value := by
  cases read_iff.mp read with
  | plain first low => exact ⟨_, read_iff.mpr (.plain first low), .plain⟩
  | object first second => exact ⟨_, read_iff.mpr (.object first second), .object⟩
  | @uninitialized _ offset _ _ first second found =>
    exact ⟨.uninitialized offset, read_iff.mpr (.uninitialized first second rfl),
      .uninitialized (valid.translate_ok_iff.mp found)⟩

end VerificationType

namespace Items

def Fits (kind : UInt8) : Items → Prop
  | .implied types =>
    kind ≠ 255 ∧ types.length = impliedCount kind ∧ ∀ type ∈ types, type.Fits
  | .counted locals stack =>
    kind = 255 ∧ (locals.length < 65536 ∧ ∀ type ∈ locals, type.Fits) ∧
      stack.length < 65536 ∧ ∀ type ∈ stack, type.Fits

theorem toBytes_counted (locals stack : List VerificationType) :
    (counted locals stack).toBytes =
      (Bytes.count locals ++ locals.flatMap VerificationType.toBytes) ++
        (Bytes.count stack ++ stack.flatMap VerificationType.toBytes) := by
  simp only [toBytes, List.append_assoc]

theorem codec (kind : UInt8) : Scan.Codec (readItems .ok kind) toBytes (Fits kind) := by
  have listed := Scan.times_codec VerificationType.codec (impliedCount kind)
  have each := Scan.counted_codec VerificationType.codec
  constructor
  · intro items data position rest fits
    have passed : Passed items.toBytes ⟨data, position, items.toBytes ++ rest⟩
        ⟨data, position + items.toBytes.length, rest⟩ := ⟨rfl, rfl, rfl⟩
    cases items with
    | implied types =>
      obtain ⟨other, fits⟩ := fits
      rw [readItems, if_neg other]
      exact run_bind_iff.mpr ⟨types, _, listed.read fits passed, rfl⟩
    | counted locals stack =>
      obtain ⟨full, first, second⟩ := fits
      rw [readItems, if_pos full]
      obtain ⟨middle, front, back⟩ := (passed.congr (toBytes_counted locals stack)).split
      refine run_bind_iff.mpr ⟨locals, middle, each.read first front, ?_⟩
      exact run_bind_iff.mpr ⟨stack, _, each.read second back, rfl⟩
  · intro before items after read
    unfold readItems at read
    split at read
    · rename_i full
      obtain ⟨locals, middle, first, read⟩ := run_bind_iff.mp read
      obtain ⟨stack, _, second, read⟩ := run_bind_iff.mp read
      obtain ⟨rfl, rfl⟩ := run_pure_iff.mp read
      obtain ⟨few, front⟩ := each.sound _ _ _ first
      obtain ⟨rest, back⟩ := each.sound _ _ _ second
      exact ⟨⟨full, few, rest⟩, (front.trans back).congr (toBytes_counted locals stack).symm⟩
    · rename_i other
      obtain ⟨types, _, first, read⟩ := run_bind_iff.mp read
      obtain ⟨rfl, rfl⟩ := run_pure_iff.mp read
      obtain ⟨fits, passed⟩ := listed.sound _ _ _ first
      exact ⟨⟨other, fits⟩, passed⟩

inductive Moved (old new : Offsets) : Items → Items → Prop where
  | implied (types : List.Forall₂ (VerificationType.Moved old new) before after) :
      Moved old new (.implied before) (.implied after)
  | counted (locals : List.Forall₂ (VerificationType.Moved old new) beforeLocals afterLocals)
      (stack : List.Forall₂ (VerificationType.Moved old new) beforeStack afterStack) :
      Moved old new (.counted beforeLocals beforeStack) (.counted afterLocals afterStack)

theorem fits_all (moved : List.Forall₂ (VerificationType.Moved old new) raws values)
    (fits : ∀ raw ∈ raws, raw.Fits) : ∀ value ∈ values, value.Fits := by
  intro value member
  obtain ⟨raw, present, one⟩ := forall₂_partner moved member
  exact one.fits (fits raw present)

theorem Moved.fits (moved : Moved old new raw items) (fits : raw.Fits kind) : items.Fits kind := by
  cases moved with
  | implied types =>
    obtain ⟨other, counted, fits⟩ := fits
    exact ⟨other, types.length_eq ▸ counted, fits_all types fits⟩
  | counted locals stack =>
    obtain ⟨full, ⟨few, first⟩, short, second⟩ := fits
    exact ⟨full, ⟨locals.length_eq ▸ few, fits_all locals first⟩, stack.length_eq ▸ short,
      fits_all stack second⟩

theorem moved_of_read {map : OffsetMap} (valid : map.Valid)
    (read : readItems map.translate kind before = .ok items after) :
    ∃ raw, readItems .ok kind before = .ok raw after ∧ raw.Moved map.old map.new items := by
  have each {value : VerificationType} {before after : Cursor} :
      verificationType map.translate before = .ok value after →
        ∃ raw, verificationType .ok before = .ok raw after ∧ raw.Moved map.old map.new value :=
    VerificationType.moved_of_read valid
  unfold readItems at read ⊢
  split at read
  · rename_i full
    rw [if_pos full]
    obtain ⟨locals, middle, first, read⟩ := run_bind_iff.mp read
    obtain ⟨stack, _, second, read⟩ := run_bind_iff.mp read
    obtain ⟨rfl, rfl⟩ := run_pure_iff.mp read
    obtain ⟨rawLocals, front, one⟩ := Scan.counted_sound (fun _ _ _ => each) first
    obtain ⟨rawStack, back, other⟩ := Scan.counted_sound (fun _ _ _ => each) second
    exact ⟨_, run_bind_iff.mpr ⟨_, _, front, run_bind_iff.mpr ⟨_, _, back, rfl⟩⟩, .counted one other⟩
  · rename_i other
    rw [if_neg other]
    obtain ⟨types, _, first, read⟩ := run_bind_iff.mp read
    obtain ⟨rfl, rfl⟩ := run_pure_iff.mp read
    obtain ⟨raws, taken, related⟩ := Scan.times_sound (fun _ _ _ => each) first
    exact ⟨_, run_bind_iff.mpr ⟨_, _, taken, rfl⟩, .implied related⟩

end Items

-- The distances that a kind can have: a compact kind holds its own, an extended one has any behind
-- it, and there is no other kind.
def Holds (kind : UInt8) (distance : UInt16) : Prop :=
  kind < 64 ∧ distance = kind.toUInt16 ∨
    (64 ≤ kind ∧ kind < 128) ∧ distance = (kind - 64).toUInt16 ∨ 247 ≤ kind

def deltaBytes (kind : UInt8) (distance : UInt16) : Bytes :=
  if 247 ≤ kind then Bytes.u16 distance else []

theorem not_extended {kind : UInt8} (compact : kind < 128) : ¬ 247 ≤ kind := by
  intro extended
  rw [UInt8.lt_iff_toNat_lt] at compact
  rw [UInt8.le_iff_toNat_le] at extended
  simp only [UInt8.reduceToNat] at compact extended
  omega

theorem deltaBytes_compact {kind : UInt8} (compact : kind < 128) (distance : UInt16) :
    deltaBytes kind distance = [] := if_neg (not_extended compact)

theorem deltaBytes_extended {kind : UInt8} (extended : 247 ≤ kind) (distance : UInt16) :
    deltaBytes kind distance = Bytes.u16 distance := if_pos extended

theorem storedDelta_codec (kind : UInt8) :
    Scan.Codec (storedDelta kind) (deltaBytes kind) (Holds kind) := by
  constructor
  · intro distance data position rest holds
    rcases holds with ⟨low, rfl⟩ | ⟨⟨least, low⟩, rfl⟩ | extended
    · rw [storedDelta, if_pos low, deltaBytes_compact (UInt8.lt_trans low (by decide))]
      rfl
    · rw [storedDelta, if_neg (UInt8.not_lt.mpr least), if_pos low, deltaBytes_compact low]
      rfl
    · have high : ¬ kind < 128 := fun compact => not_extended compact extended
      have higher : ¬ kind < 64 := fun low => high (UInt8.lt_trans low (by decide))
      rw [storedDelta, if_neg higher, if_neg high, if_pos extended, deltaBytes_extended extended]
      exact Scan.u16_codec.complete distance data position rest trivial
  · intro before distance after read
    unfold storedDelta at read
    split at read
    · rename_i low
      obtain ⟨rfl, rfl⟩ := run_pure_iff.mp read
      rw [deltaBytes_compact (UInt8.lt_trans low (by decide))]
      exact ⟨.inl ⟨low, rfl⟩, .refl _⟩
    · rename_i least
      split at read
      · rename_i low
        obtain ⟨rfl, rfl⟩ := run_pure_iff.mp read
        rw [deltaBytes_compact low]
        exact ⟨.inr (.inl ⟨⟨UInt8.not_lt.mp least, low⟩, rfl⟩), .refl _⟩
      · split at read
        · rename_i extended
          rw [deltaBytes_extended extended]
          exact ⟨.inr (.inr extended), (Scan.u16_codec.sound _ _ _ read).2⟩
        · cases read

theorem Holds.known {kind : UInt8} {distance : UInt16} (holds : Holds kind distance) :
    kind < 128 ∨ 247 ≤ kind := by
  rcases holds with ⟨low, _⟩ | ⟨⟨_, low⟩, _⟩ | extended
  · exact .inl (UInt8.lt_trans low (by decide))
  · exact .inl low
  · exact .inr extended

structure StoredFrame where
  kind : UInt8
  delta : UInt16
  items : Items

namespace StoredFrame

def read : Scan StoredFrame := do
  let kind ← Scan.u8
  let delta ← storedDelta kind
  return ⟨kind, delta, ← readItems .ok kind⟩

def toBytes (frame : StoredFrame) : Bytes :=
  [frame.kind] ++ (deltaBytes frame.kind frame.delta ++ frame.items.toBytes)

structure Fits (frame : StoredFrame) : Prop where
  delta : Holds frame.kind frame.delta
  items : frame.items.Fits frame.kind

theorem codec : Scan.Codec read toBytes Fits := by
  constructor
  · intro frame data position rest fits
    have passed : Passed frame.toBytes ⟨data, position, frame.toBytes ++ rest⟩
        ⟨data, position + frame.toBytes.length, rest⟩ := ⟨rfl, rfl, rfl⟩
    obtain ⟨_, first, passed⟩ := passed.split
    obtain ⟨_, second, third⟩ := passed.split
    simp only [read, run_bind_iff, run_pure_iff]
    exact ⟨_, _, Scan.u8_codec.read trivial first, _, _, (storedDelta_codec _).read fits.delta second,
      _, _, (Items.codec _).read fits.items third, rfl, rfl⟩
  · intro before frame after taken
    simp only [read, run_bind_iff, run_pure_iff] at taken
    obtain ⟨kind, _, first, delta, _, second, items, _, third, rfl, rfl⟩ := taken
    obtain ⟨holds, middle⟩ := (storedDelta_codec _).sound _ _ _ second
    obtain ⟨fits, last⟩ := (Items.codec _).sound _ _ _ third
    exact ⟨⟨holds, fits⟩, (Scan.u8_codec.sound _ _ _ first).2.trans (middle.trans last)⟩

end StoredFrame

-- What becomes of a kind: a compact one holds the new distance or gives way to the extended kind
-- of the same meaning, and every other one stays.
inductive KindMoved (distance : UInt16) : UInt8 → UInt8 → Prop where
  | same {after : UInt8} (compact : before < 64) (near : distance.toNat ≤ 63)
      (holds : after.toNat = distance.toNat) : KindMoved distance before after
  | sameFar (compact : before < 64) (far : 63 < distance.toNat) : KindMoved distance before 251
  | item {after : UInt8} (compact : 64 ≤ before ∧ before < 128) (near : distance.toNat ≤ 63)
      (holds : after.toNat = 64 + distance.toNat) : KindMoved distance before after
  | itemFar (compact : 64 ≤ before ∧ before < 128) (far : 63 < distance.toNat) :
      KindMoved distance before 247
  | kept (extended : 247 ≤ kind) : KindMoved distance kind kind

theorem header_moves (kind : UInt8) (distance : UInt16) (known : kind < 128 ∨ 247 ≤ kind) :
    ∃ after, KindMoved distance kind after ∧
      header kind distance = after :: deltaBytes after distance := by
  unfold header
  split
  · rename_i compact
    split
    · rename_i near
      have small : distance.toNat ≤ 63 := near
      have holds : distance.toUInt8.toNat = distance.toNat := by
        rw [UInt16.toNat_toUInt8]
        omega
      have low : distance.toUInt8 < 128 := by
        rw [UInt8.lt_iff_toNat_lt, holds]
        exact Nat.lt_of_le_of_lt small (by decide)
      exact ⟨_, .same compact small holds, by rw [deltaBytes_compact low]⟩
    · rename_i far
      exact ⟨251, .sameFar compact (Nat.lt_of_not_le far), rfl⟩
  · rename_i least
    split
    · rename_i low
      have compact := And.intro (UInt8.not_lt.mp least) low
      split
      · rename_i near
        have small : distance.toNat ≤ 63 := near
        have holds : (64 + distance.toUInt8).toNat = 64 + distance.toNat := by
          rw [UInt8.toNat_add, UInt16.toNat_toUInt8]
          simp only [UInt8.reduceToNat]
          omega
        have short : 64 + distance.toUInt8 < 128 := by
          rw [UInt8.lt_iff_toNat_lt, holds]
          exact Nat.add_lt_add_left (Nat.lt_succ_of_le small) 64
        exact ⟨_, .item compact small holds, by rw [deltaBytes_compact short]⟩
      · rename_i far
        exact ⟨247, .itemFar compact (Nat.lt_of_not_le far), rfl⟩
    · rename_i high
      have extended := known.resolve_left high
      exact ⟨kind, .kept extended, by rw [deltaBytes_extended extended]⟩

theorem KindMoved.holds {distance : UInt16} (moved : KindMoved distance before after) :
    Holds after distance := by
  cases moved with
  | same compact near holds =>
    refine .inl ⟨?_, ?_⟩
    · rw [UInt8.lt_iff_toNat_lt, holds]
      exact Nat.lt_succ_of_le near
    · rw [← UInt16.toNat_inj, UInt8.toNat_toUInt16, holds]
  | item compact near holds =>
    refine .inr (.inl ⟨⟨?_, ?_⟩, ?_⟩)
    · rw [UInt8.le_iff_toNat_le, holds]
      exact Nat.le_add_right _ _
    · rw [UInt8.lt_iff_toNat_lt, holds]
      exact Nat.add_lt_add_left (Nat.lt_succ_of_le near) 64
    · rw [← UInt16.toNat_inj, UInt8.toNat_toUInt16, UInt8.toNat_sub_of_le, holds]
      · simp
      · rw [UInt8.le_iff_toNat_le, holds]
        exact Nat.le_add_right _ _
  | sameFar | itemFar => exact .inr (.inr (by decide))
  | kept extended => exact .inr (.inr extended)

theorem impliedCount_same {kind : UInt8} (compact : kind < 64) :
    kind ≠ 255 ∧ impliedCount kind = 0 := by
  have all : ∀ value : Fin 256, UInt8.ofFin value < 64 →
      UInt8.ofFin value ≠ 255 ∧ impliedCount (.ofFin value) = 0 := by
    decide +kernel
  exact all kind.toFin compact

theorem impliedCount_item {kind : UInt8} (compact : 64 ≤ kind ∧ kind < 128) :
    kind ≠ 255 ∧ impliedCount kind = 1 := by
  have all : ∀ value : Fin 256, 64 ≤ UInt8.ofFin value ∧ UInt8.ofFin value < 128 →
      UInt8.ofFin value ≠ 255 ∧ impliedCount (.ofFin value) = 1 := by
    decide +kernel
  exact all kind.toFin compact

theorem Items.Fits.congr {items : Items} (fits : items.Fits before) (full : before ≠ 255)
    (other : after ≠ 255) (same : impliedCount before = impliedCount after) : items.Fits after := by
  cases items with
  | implied types => exact ⟨other, same ▸ fits.2.1, fits.2.2⟩
  | counted locals stack => exact absurd fits.1 full

theorem KindMoved.fits {distance : UInt16} {items : Items} (moved : KindMoved distance before after)
    (fits : items.Fits before) : items.Fits after := by
  cases moved with
  | same compact near holds =>
    obtain ⟨full, none⟩ := impliedCount_same compact
    have low : after < 64 := by
      rw [UInt8.lt_iff_toNat_lt, holds]
      exact Nat.lt_succ_of_le near
    obtain ⟨other, still⟩ := impliedCount_same low
    exact fits.congr full other (none.trans still.symm)
  | sameFar compact =>
    obtain ⟨full, none⟩ := impliedCount_same compact
    exact fits.congr full (by decide) none
  | item compact near holds =>
    obtain ⟨full, one⟩ := impliedCount_item compact
    have low : 64 ≤ after ∧ after < 128 := by
      rw [UInt8.le_iff_toNat_le, UInt8.lt_iff_toNat_lt, holds]
      exact ⟨Nat.le_add_right _ _, Nat.add_lt_add_left (Nat.lt_succ_of_le near) 64⟩
    obtain ⟨other, still⟩ := impliedCount_item low
    exact fits.congr full other (one.trans still.symm)
  | itemFar compact =>
    obtain ⟨full, one⟩ := impliedCount_item compact
    exact fits.congr full (by decide) one
  | kept => exact fits

def gap : Option Nat → Nat → Int
  | none, offset => offset
  | some before, offset => offset - before - 1

structure FrameMoved (old new : Offsets) (previous : Option (Nat × Nat)) (before after : Nat)
    (given moved : StoredFrame) : Prop where
  offset : Offsets.Moved old new before after
  taken : (given.delta.toNat : Int) = gap (previous.map Prod.fst) before
  stored : (moved.delta.toNat : Int) = gap (previous.map Prod.snd) after
  kind : KindMoved moved.delta given.kind moved.kind
  items : given.items.Moved old new moved.items

inductive FramesMoved (old new : Offsets) :
    Option (Nat × Nat) → List StoredFrame → List StoredFrame → Prop where
  | done : FramesMoved old new previous [] []
  | step (frame : FrameMoved old new previous before after given moved)
      (tail : FramesMoved old new (some (before, after)) givens others) :
      FramesMoved old new previous (given :: givens) (moved :: others)

theorem delta_exact {previous : Option Nat} {offset : Nat}
    (behind : ∀ before ∈ previous, before < offset) (short : offset < 65536) : ((delta previous offset).toNat : Int) = gap previous offset := by
  cases previous with
  | none =>
    rw [delta, UInt16.toNat_ofNat_of_lt' short]
    rfl
  | some before =>
    have less := behind before rfl
    have small : offset - before - 1 < 65536 := by omega
    rw [delta, UInt16.toNat_ofNat_of_lt' small, gap]
    omega

theorem readFrame_sound {map : OffsetMap} (valid : map.Valid) {previous : Option (Nat × Nat)}
    (known : ∀ pair ∈ previous, Offsets.Moved map.old map.new pair.1 pair.2)
    (ran : readFrame map.translate (previous.map Prod.fst) before = .ok (offset, frame) after) :
    ∃ given moved, StoredFrame.read before = .ok given after ∧
      FrameMoved map.old map.new previous offset frame.offset given moved ∧ moved.Fits ∧
        frame.toBytes (previous.map Prod.snd) = moved.toBytes := by
  simp only [readFrame, run_bind_iff, run_pure_iff, Scan.guard_ok_iff, Scan.lift_ok_iff] at ran
  obtain ⟨kind, _, first, distance, _, second, inside, newOffset, _, ⟨found, rfl⟩, items, last, third,
    same, rfl⟩ := ran
  obtain ⟨placed, rfl⟩ := Prod.mk.inj same
  rw [placed] at inside found
  have short : offset < 65536 := by omega
  have moved := valid.translate_ok_iff.mp found
  rw [UInt16.toNat_ofNat_of_lt' short] at moved
  obtain ⟨raws, taken, itemsMoved⟩ := Items.moved_of_read valid third
  have read : StoredFrame.read before = .ok ⟨kind, distance, raws⟩ last := by
    simp only [StoredFrame.read, run_bind_iff, run_pure_iff]
    exact ⟨_, _, first, _, _, second, _, _, taken, rfl, rfl⟩
  have fits := (StoredFrame.codec.sound _ _ _ read).1
  have distant : (distance.toNat : Int) = gap (previous.map Prod.fst) offset := by
    rw [← placed]
    cases previous with
    | none => rfl
    | some pair =>
      simp only [Option.map_some, gap]
      omega
  have behind : ∀ start ∈ previous.map Prod.snd, start < newOffset.toNat := by
    intro start member
    cases previous with
    | none => cases member
    | some pair =>
      cases member
      simp only [Option.map_some, gap] at distant
      exact (known pair rfl).strict valid.old valid.new moved (by omega)
  have valued := delta_exact behind newOffset.toNat_lt
  obtain ⟨after, kindMoved, header⟩ := header_moves kind
    (delta (previous.map Prod.snd) newOffset.toNat) fits.delta.known
  refine ⟨⟨kind, distance, raws⟩, ⟨after, _, items⟩, read,
    ⟨moved, distant, valued, kindMoved, itemsMoved⟩,
    ⟨kindMoved.holds, kindMoved.fits (itemsMoved.fits fits.items)⟩, ?_⟩
  rw [Frame.toBytes, header, List.cons_append]
  rfl

def bytesFrom (previous : Option Nat) (frames : List Frame) : Bytes :=
  ((frames.zip (previous :: frames.map fun frame => some frame.offset)).map
    fun pair => pair.1.toBytes pair.2).flatten

theorem bytesFrom_cons (previous : Option Nat) (frame : Frame) (frames : List Frame) :
    bytesFrom previous (frame :: frames) =
      frame.toBytes previous ++ bytesFrom (some frame.offset) frames := rfl

theorem readFrames_sound {map : OffsetMap} (valid : map.Valid) (previous : Option (Nat × Nat))
    (known : ∀ pair ∈ previous, Offsets.Moved map.old map.new pair.1 pair.2)
    (ran : readFrames map.translate count (previous.map Prod.fst) found before = .ok result after) :
    ∃ frames given moved, result = found.reverse ++ frames ∧
      Scan.times count StoredFrame.read before = .ok given after ∧
        FramesMoved map.old map.new previous given moved ∧ moved.length = count ∧
          (∀ frame ∈ moved, frame.Fits) ∧
            bytesFrom (previous.map Prod.snd) frames = moved.flatMap StoredFrame.toBytes := by
  induction count generalizing previous found before with
  | zero =>
    obtain ⟨rfl, rfl⟩ := run_pure_iff.mp ran
    exact ⟨[], [], [], by simp, rfl, .done, rfl, by simp, rfl⟩
  | succ count ih =>
    rw [readFrames, run_bind_iff] at ran
    obtain ⟨⟨offset, frame⟩, middle, first, ran⟩ := ran
    obtain ⟨one, next, taken, frameMoved, fits, bytes⟩ := readFrame_sound valid known first
    have here : ∀ pair ∈ some (offset, frame.offset), Offsets.Moved map.old map.new pair.1 pair.2 := by
      intro pair same
      cases same
      exact frameMoved.offset
    obtain ⟨frames, givens, others, rfl, read, moved, counted, fitting, written⟩ := ih _ here ran
    refine ⟨frame :: frames, one :: givens, next :: others, by simp, ?_, .step frameMoved moved,
      by simp [counted], List.forall_mem_cons.mpr ⟨fits, fitting⟩, ?_⟩
    · rw [Scan.times_succ, run_bind_iff]
      exact ⟨_, _, taken, run_bind_iff.mpr ⟨_, _, read, rfl⟩⟩
    · rw [bytesFrom_cons, bytes, List.flatMap_cons]
      exact congrArg _ written

-- A stack map is written with the frames it has, each where its instruction is now, and nothing
-- else. What stands behind the frames does not count.
theorem remap_moves {map : OffsetMap} {data : Bytes} (valid : map.Valid)
    (ran : (remap map).run data = .ok written) :
    ∃ given moved, (Scan.counted StoredFrame.read).run data = .ok given ∧
      (Scan.counted StoredFrame.read).run written = .ok moved ∧
      written = Bytes.count moved ++ moved.flatMap StoredFrame.toBytes ∧
      FramesMoved map.old map.new none given moved := by
  obtain ⟨last, ran⟩ := Scan.run_ok_iff.mp ran
  simp only [remap, run_bind_iff, run_pure_iff] at ran
  obtain ⟨count, middle, first, frames, _, read, rfl, rfl⟩ := ran
  obtain ⟨_, given, moved, rfl, taken, related, counted, fits, bytes⟩ :=
    readFrames_sound valid none nofun read
  have few : moved.length < 65536 := counted ▸ count.toNat_lt
  have whole : Bytes.u16 count ++ framesToBytes frames =
      Bytes.count moved ++ moved.flatMap StoredFrame.toBytes := by
    rw [Bytes.count_eq moved few, counted, UInt16.ofNat_toNat]
    exact congrArg _ bytes
  rw [whole]
  exact ⟨given, moved, Scan.run_ok_iff.mpr ⟨_, run_bind_iff.mpr ⟨count, middle, first, taken⟩⟩,
    (Scan.counted_codec StoredFrame.codec).run ⟨few, fits⟩, rfl, related⟩

-- Two instructions that move by ten bytes. The first frame outgrows its compact kind, the second
-- has an object that the first instruction is about to initialize.
def growing : OffsetMap := ⟨#[0, 60, 70], #[0, 70, 80]⟩

theorem growing_valid : growing.Valid := by
  refine ⟨Offsets.ascending_of_pairwise (by decide), Offsets.ascending_of_pairwise (by decide), rfl,
    ?_⟩
  intro position offset present
  have listed := List.mem_of_getElem? (Array.getElem?_toList.trans present)
  have small : ∀ entry ∈ growing.new.toList, entry < 65536 := by decide
  exact small offset listed

theorem growing_moves :
    growing.Valid ∧
      (remap growing).run [0, 2, 60, 255, 0, 9, 0, 1, 8, 0, 60, 0, 0] =
        .ok [0, 2, 251, 0, 70, 255, 0, 9, 0, 1, 8, 0, 70, 0, 0] ∧
      ∃ given moved, (Scan.counted StoredFrame.read).run
          [0, 2, 60, 255, 0, 9, 0, 1, 8, 0, 60, 0, 0] = .ok given ∧
        (Scan.counted StoredFrame.read).run
          [0, 2, 251, 0, 70, 255, 0, 9, 0, 1, 8, 0, 70, 0, 0] = .ok moved ∧
        FramesMoved growing.old growing.new none given moved := by
  have ran : (remap growing).run [0, 2, 60, 255, 0, 9, 0, 1, 8, 0, 60, 0, 0] =
      .ok [0, 2, 251, 0, 70, 255, 0, 9, 0, 1, 8, 0, 70, 0, 0] := by
    decide +kernel
  obtain ⟨given, moved, before, after, _, related⟩ := remap_moves growing_valid ran
  exact ⟨growing_valid, ran, given, moved, before, after, related⟩

end ClassRename.StackMap
