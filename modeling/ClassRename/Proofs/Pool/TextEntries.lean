import ClassRename.Proofs.Pool.Storing
import ClassRename.Proofs.Text.Canonical

namespace ClassRename

structure TextEntry where
  bytes : Bytes
  text : Option String
deriving DecidableEq

namespace TextEntry

def read (bytes : Bytes) : TextEntry := ⟨bytes, (ModifiedUtf8.decode bytes).toOption⟩

-- The text is the given one: it is not read from the bytes again.
def make (text : String) : TextEntry := ⟨ModifiedUtf8.encode text, some text⟩

theorem read_encode (text : String) : read (ModifiedUtf8.encode text) = make text := by
  simp [read, make, ModifiedUtf8.decode_encode, Except.toOption]

end TextEntry

namespace EncodedText

def entry (stored : EncodedText) : TextEntry := .read stored.bytes

theorem entry_inj {left right : EncodedText} : left.entry = right.entry ↔ left = right := by
  constructor
  · intro same
    obtain ⟨first⟩ := left
    obtain ⟨second⟩ := right
    exact congrArg mk (congrArg TextEntry.bytes same)
  · intro same
    rw [same]

theorem entry_ofString (text : String) : (ofString text).entry = .make text :=
  TextEntry.read_encode text

end EncodedText

namespace Pool

theorem intern_held (indexed : Indexed pool) (usable : constant ≠ .unusable)
    (held : constant ∈ pool.slots) :
    ∃ index, intern constant pool = .ok index pool ∧ pool.FirstAt constant index.toNat := by
  have known := (indexed.listed constant).mpr ⟨usable, held⟩
  have found : pool.first[constant]? = some pool.first[constant] :=
    Std.HashMap.getElem?_eq_some_getElem known
  refine ⟨pool.first[constant], ?_, indexed.first constant _ found⟩
  unfold intern
  rw [found]

end Pool

namespace ModifiedUtf8

theorem encode_faithful (text : String) :
    decode (encode text) = .ok text ∧ (∀ byte ∈ encode text, byte ≠ 0) ∧
    encode text = (Utf16.encode text.toList).flatMap encodeUnit ∧
    TextEntry.read (encode text) = TextEntry.make text ∧
    ∀ (pool : Pool) (stored : EncodedText), pool.Built → .utf8 stored ∈ pool.slots →
      stored.entry = TextEntry.make text →
        ∃ index, Pool.internText text pool = .ok index pool ∧
          pool.FirstAt (.utf8 stored) index.toNat := by
  refine ⟨decode_encode text, encode_nonzero text, encode_eq_units text,
    TextEntry.read_encode text, ?_⟩
  intro pool stored built held same
  rw [← EncodedText.entry_ofString, EncodedText.entry_inj] at same
  subst same
  obtain ⟨slot, present⟩ := Array.mem_iff_getElem?.mp held
  have short : (EncodedText.ofString text).bytes.length < 65536 := by
    rcases built.tidy.stored slot _ present with unusable | storable
    · cases unusable
    · exact storable
  obtain ⟨index, ran, first⟩ := Pool.intern_held built.indexed (by simp) held
  refine ⟨index, ?_, first⟩
  rw [Pool.internText, if_neg (by omega)]
  exact ran

def mixedBytes : Bytes := [0x41, 0xC0, 0x80, 0xED, 0xA0, 0xBD, 0xED, 0xB8, 0x80]

def mixedPool : Pool := (Pool.empty.append (.utf8 ⟨mixedBytes⟩)).append (.utf8 ⟨mixedBytes⟩)

theorem mixedPool_built : mixedPool.Built :=
  .add (.add .refl (show mixedBytes.length < 65536 by decide) (by decide))
    (show mixedBytes.length < 65536 by decide) (by decide)

theorem mixedPool_answers : encode "A\x00😀" = mixedBytes ∧ decode mixedBytes = .ok "A\x00😀" ∧
    mixedPool.Built ∧ Pool.internText "A\x00😀" mixedPool = .ok 1 mixedPool := by
  have written : encode "A\x00😀" = mixedBytes := by decide +kernel
  obtain ⟨back, _, _, same, answered⟩ := encode_faithful "A\x00😀"
  rw [written] at back same
  obtain ⟨index, ran, first⟩ := answered mixedPool ⟨mixedBytes⟩ mixedPool_built
    (by decide +kernel) same
  have held : mixedPool.slots[1]? = some (.utf8 ⟨mixedBytes⟩) := rfl
  have reserved : mixedPool.slots[0]? = some .unusable := rfl
  obtain rfl : index = 1 := by
    rcases Nat.lt_trichotomy 1 index.toNat with later | one | before
    · exact absurd held (first.least 1 later)
    · exact UInt16.toNat_inj.mp one.symm
    · have present := first.held
      rw [Nat.lt_one_iff.mp before, reserved] at present
      cases present
  exact ⟨written, back, mixedPool_built, ran⟩

-- The bytes that are written for the text read from them are the rows of shortest groups. The others
-- have an overlong group or a character of four bytes, and it is under other bytes than these that
-- their text is interned.
theorem encode_canonical_iff (read : decode bytes = .ok text) :
    (encode text = bytes ↔ Canonical bytes) ∧
    (encode text ≠ bytes ↔ HasOverlong bytes ∨ HasFourBytes bytes) ∧
    ∀ (pool later : Pool) (index : UInt16), pool.Sound →
      Pool.internText text pool = .ok index later →
        ∃ stored, later.get index = .ok (.utf8 stored) ∧
          (stored.bytes ≠ bytes ↔ HasOverlong bytes ∨ HasFourBytes bytes) := by
  refine ⟨encode_eq_iff read, encode_ne_iff read, ?_⟩
  intro pool later index sound ran
  unfold Pool.internText at ran
  split at ran
  · cases ran
  · exact ⟨_, Pool.get_of_intern sound (by simp) ran, encode_ne_iff read⟩

theorem rewritten_texts : decode [0x41, 0xC0, 0x80] = .ok "A\x00" ∧
    encode "A\x00" = [0x41, 0xC0, 0x80] ∧
    decode [0xC1, 0x81] = .ok "A" ∧ encode "A" ≠ [0xC1, 0x81] ∧
    decode [0xF0, 0x9F, 0x98, 0x80] = .ok "😀" ∧ encode "😀" ≠ [0xF0, 0x9F, 0x98, 0x80] ∧
    ∃ later stored, Pool.internText "A" .empty = .ok 1 later ∧ later.get 1 = .ok (.utf8 stored) ∧
      stored.bytes ≠ [0xC1, 0x81] := by
  have zero : decode [0x41, 0xC0, 0x80] = .ok "A\x00" := by decide +kernel
  have letter : decode [0xC1, 0x81] = .ok "A" := by decide +kernel
  have picture : decode [0xF0, 0x9F, 0x98, 0x80] = .ok "😀" := by decide +kernel
  have shortest : Canonical [0x41, 0xC0, 0x80] := by
    refine ⟨[[0x41], [0xC0, 0x80]], rfl, ?_⟩
    simp only [List.forall_mem_cons, List.not_mem_nil, false_implies, implies_true, and_true]
    exact ⟨.single (.single (by decide) (by decide)), .zero⟩
  have long : HasOverlong [0xC1, 0x81] := by
    have group : Group [0xC1, 0x81] 0x41 := .double (by decide) (by decide)
    refine ⟨[[0xC1, 0x81]], rfl, ?_, _, List.mem_cons_self, .double group (by decide) (by decide)⟩
    exact List.forall_mem_singleton.mpr ⟨_, group⟩
  have four : HasFourBytes [0xF0, 0x9F, 0x98, 0x80] :=
    ⟨['😀'], by decide, '😀', List.mem_cons_self, by decide⟩
  obtain ⟨_, other, stores⟩ := encode_canonical_iff letter
  have ran : Pool.internText "A" .empty = .ok 1 (Pool.empty.append (.utf8 (.ofString "A"))) :=
    Pool.intern_fresh Pool.empty_sound (by decide +kernel) (by decide)
  obtain ⟨stored, found, differs⟩ := stores _ _ _ Pool.empty_sound ran
  exact ⟨zero, (encode_canonical_iff zero).1.mpr shortest, letter, other.mpr (.inl long), picture,
    (encode_canonical_iff picture).2.1.mpr (.inr four), _, stored, ran, found,
    differs.mpr (.inl long)⟩

end ModifiedUtf8
end ClassRename
