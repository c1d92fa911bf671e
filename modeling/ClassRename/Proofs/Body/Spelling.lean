import ClassRename.Body.Encode
import ClassRename.Proofs.Body.Targets
import ClassRename.Proofs.Pool.Interning
import ClassRename.Proofs.Pool.Obscuring
import ClassRename.Proofs.Scan

namespace ClassRename
open Effects Cursor

namespace Opcode

theorem assigned_of_layout {opcode : UInt8} (shape : layout opcode ≠ .none) :
    isReserved opcode = false := by
  have all : ∀ value : Fin 256, layout (.ofFin value) ≠ .none → isReserved (.ofFin value) = false := by
    decide +kernel
  exact all opcode.toFin shape

theorem eq_of_layout (opcode : UInt8) :
    (layout opcode = .poolIndexU8 → opcode = ldc) ∧
      (layout opcode = .tableSwitch → opcode = tableSwitch) ∧
      (layout opcode = .lookupSwitch → opcode = lookupSwitch) ∧
      (layout opcode = .wide → opcode = wide) := by
  have all : ∀ value : Fin 256,
      (layout (.ofFin value) = .poolIndexU8 → UInt8.ofFin value = ldc) ∧
        (layout (.ofFin value) = .tableSwitch → UInt8.ofFin value = tableSwitch) ∧
        (layout (.ofFin value) = .lookupSwitch → UInt8.ofFin value = lookupSwitch) ∧
        (layout (.ofFin value) = .wide → UInt8.ofFin value = wide) := by
    decide +kernel
  exact all opcode.toFin

def isSymbolic (opcode : UInt8) : Bool :=
  isFieldAccess opcode || isInvocation opcode || isWideLoad opcode

theorem families (opcode : UInt8) :
    (isInvocation opcode = true → isFieldAccess opcode = false) ∧
      (isWideLoad opcode = true → isFieldAccess opcode = false ∧ isInvocation opcode = false) := by
  have all : ∀ value : Fin 256,
      (isInvocation (.ofFin value) = true → isFieldAccess (.ofFin value) = false) ∧
        (isWideLoad (.ofFin value) = true →
          isFieldAccess (.ofFin value) = false ∧ isInvocation (.ofFin value) = false) := by
    decide +kernel
  exact all opcode.toFin

end Opcode

namespace Body

def distance (offset target : Nat) : Int := (target : Int) - offset

def Fits32 (distance : Int) : Prop := -2 ^ 31 ≤ distance ∧ distance < 2 ^ 31

theorem fits16_iff (distance : Int) :
    fits16 distance = true ↔ -2 ^ 15 ≤ distance ∧ distance < 2 ^ 15 := by
  unfold fits16
  rw [Bool.and_eq_true, decide_eq_true_eq, decide_eq_true_eq]
  omega

theorem absolute_ok_iff {offset target : Nat} {distance : Int32} :
    absolute offset distance = .ok target ↔ (target : Int) = offset + distance.toInt := by
  unfold absolute
  dsimp only
  split
  · rename_i negative
    constructor
    · intro impossible
      cases impossible
    · intro same
      omega
  · rename_i inside
    rw [Except.ok.injEq]
    omega

theorem readTarget_codec (offset : Nat) :
    Scan.Codec (readTarget offset) (fun target => word (distance offset target))
      (fun target => Fits32 (distance offset target)) := by
  constructor
  · intro target data position rest ⟨low, high⟩
    have back := Int32.toInt_ofInt_of_le low high
    have found : absolute offset (Int32.ofInt (distance offset target)) = .ok target :=
      absolute_ok_iff.mpr (by rw [back, distance]; omega)
    simp only [readTarget, word, bind_apply, Scan.i32_apply, found, Scan.lift_ok, Bytes.length_i32]
  · intro before target after read
    simp only [readTarget, run_bind_iff, Scan.lift_ok_iff, absolute_ok_iff] at read
    obtain ⟨found, middle, taken, same, rfl⟩ := read
    have shown : distance offset target = found.toInt := by unfold distance; omega
    rw [shown]
    refine ⟨⟨found.le_toInt, found.toInt_lt⟩, ?_⟩
    rw [word, Int32.ofInt_toInt]
    exact (Scan.i32_codec.sound _ _ _ taken).2

theorem length_word (value : Int) : (word value).length = 4 := Bytes.length_i32 _

def pairBytes (offset : Nat) (pair : Int32 × Nat) : Bytes :=
  Bytes.i32 pair.1 ++ word (distance offset pair.2)

theorem readPair_codec (offset : Nat) :
    Scan.Codec (do let key ← Scan.i32; return (key, ← readTarget offset)) (pairBytes offset)
      (fun pair => Fits32 (distance offset pair.2)) := by
  constructor
  · intro pair data position rest fits
    have tail := (readTarget_codec offset).complete pair.2 data (position + 4) rest fits
    simp only [length_word] at tail
    simp only [pairBytes, List.append_assoc, bind_apply, Scan.i32_apply, tail, pure_apply,
      List.length_append, Bytes.length_i32, length_word, Nat.add_assoc]
  · intro before pair after read
    simp only [run_bind_iff, run_pure_iff] at read
    obtain ⟨key, middle, taken, target, _, found, rfl, rfl⟩ := read
    obtain ⟨fits, passed⟩ := (readTarget_codec offset).sound _ _ _ found
    exact ⟨fits, (Scan.i32_codec.sound _ _ _ taken).2.trans passed⟩

theorem length_flatMap_word (offset : Nat) (targets : List Nat) :
    (targets.flatMap fun target => word (distance offset target)).length = targets.length * 4 := by
  simp [List.length_flatMap, length_word]

theorem length_flatMap_pairBytes (offset : Nat) (pairs : List (Int32 × Nat)) :
    (pairs.flatMap (pairBytes offset)).length = pairs.length * 8 := by
  simp [List.length_flatMap, pairBytes, length_word]

theorem readTableSwitch_complete {default : Nat} (skipped : padded.length = padding before.position)
    (ordered : low ≤ high) (counted : (targets.length : Int) = high.toInt - low.toInt + 1)
    (first : Fits32 (distance offset default))
    (others : ∀ target ∈ targets, Fits32 (distance offset target))
    (passed : Passed (padded ++ (word (distance offset default) ++ (Bytes.i32 low ++
      (Bytes.i32 high ++ targets.flatMap fun target => word (distance offset target))))) before after) :
    readTableSwitch offset before = .ok (.tableSwitch default low high targets) after := by
  obtain ⟨operands, skip, passed⟩ := passed.split
  obtain ⟨lower, toDefault, passed⟩ := passed.split
  obtain ⟨upper, toLow, passed⟩ := passed.split
  obtain ⟨cases, toHigh, passed⟩ := passed.split
  have size : (high.toInt - low.toInt + 1).toNat = targets.length := by omega
  have room : targets.length * 4 ≤ cases.rest.length := by
    rw [passed.length, length_flatMap_word]
    exact Nat.le_add_right _ _
  have inverted : ¬ high < low := by
    rw [Int32.lt_iff_toInt_lt]
    rw [Int32.le_iff_toInt_le] at ordered
    omega
  simp only [readTableSwitch, run_bind_iff, run_pure_iff, Scan.guard_ok_iff]
  refine ⟨_, _, Scan.position_ok_iff.mpr ⟨rfl, rfl⟩, (), operands,
    Scan.advance_ok_iff.mpr ⟨padded, skipped, skip⟩, default, lower,
    (readTarget_codec offset).read first toDefault, low, upper, Scan.i32_codec.read trivial toLow,
    high, cases, Scan.i32_codec.read trivial toHigh, inverted, _, cases,
    Scan.endOf_ok_iff.mpr ⟨by rwa [size], rfl, rfl⟩, targets, after, ?_, rfl, rfl⟩
  rw [size]
  exact (Scan.times_codec (readTarget_codec offset) _).read ⟨rfl, others⟩ passed

theorem readTableSwitch_sound (read : readTableSwitch offset before = .ok instruction after) :
    ∃ padded default low high targets, instruction = .tableSwitch default low high targets ∧
      padded.length = padding before.position ∧ low ≤ high ∧
      (targets.length : Int) = high.toInt - low.toInt + 1 ∧ Fits32 (distance offset default) ∧
      (∀ target ∈ targets, Fits32 (distance offset target)) ∧
      Passed (padded ++ (word (distance offset default) ++ (Bytes.i32 low ++ (Bytes.i32 high ++
        targets.flatMap fun target => word (distance offset target))))) before after := by
  simp only [readTableSwitch, run_bind_iff, run_pure_iff, Scan.guard_ok_iff, Scan.position_ok_iff,
    Scan.advance_ok_iff, Scan.endOf_ok_iff] at read
  obtain ⟨_, _, ⟨rfl, rfl⟩, _, operands, ⟨padded, skipped, skip⟩, default, lower, toDefault,
    low, upper, toLow, high, _, toHigh, inverted, _, cases, ⟨_, rfl, rfl⟩, targets, _, listed,
    rfl, rfl⟩ := read
  obtain ⟨first, passedDefault⟩ := (readTarget_codec offset).sound _ _ _ toDefault
  obtain ⟨⟨size, others⟩, passed⟩ := (Scan.times_codec (readTarget_codec offset) _).sound _ _ _ listed
  have ordered : low ≤ high := by
    rw [Int32.lt_iff_toInt_lt] at inverted
    rw [Int32.le_iff_toInt_le]
    omega
  have counted : (targets.length : Int) = high.toInt - low.toInt + 1 := by
    rw [Int32.le_iff_toInt_le] at ordered
    omega
  exact ⟨padded, default, low, high, targets, rfl, skipped, ordered, counted, first, others,
    skip.trans (passedDefault.trans ((Scan.i32_codec.sound _ _ _ toLow).2.trans
      ((Scan.i32_codec.sound _ _ _ toHigh).2.trans passed)))⟩

theorem readLookupSwitch_complete {default : Nat}
    (skipped : padded.length = padding before.position) (counted : pairs.length < 2 ^ 31)
    (first : Fits32 (distance offset default))
    (others : ∀ pair ∈ pairs, Fits32 (distance offset pair.2))
    (passed : Passed (padded ++ (word (distance offset default) ++ (word (pairs.length : Int) ++
      pairs.flatMap (pairBytes offset)))) before after) :
    readLookupSwitch offset before = .ok (.lookupSwitch default pairs) after := by
  obtain ⟨operands, skip, passed⟩ := passed.split
  obtain ⟨counter, toDefault, passed⟩ := passed.split
  obtain ⟨cases, toCount, passed⟩ := passed.split
  have number : (Int32.ofInt (pairs.length : Int)).toInt = pairs.length :=
    Int32.toInt_ofInt_of_le (by omega) (by omega)
  have size : (Int32.ofInt (pairs.length : Int)).toInt.toNat = pairs.length := by omega
  have room : pairs.length * 8 ≤ cases.rest.length := by
    rw [passed.length, length_flatMap_pairBytes]
    exact Nat.le_add_right _ _
  have natural : ¬ Int32.ofInt (pairs.length : Int) < 0 := by
    rw [Int32.lt_iff_toInt_lt, number]
    exact Int.not_lt.mpr (Int.natCast_nonneg _)
  simp only [readLookupSwitch, run_bind_iff, run_pure_iff, Scan.guard_ok_iff]
  refine ⟨_, _, Scan.position_ok_iff.mpr ⟨rfl, rfl⟩, (), operands,
    Scan.advance_ok_iff.mpr ⟨padded, skipped, skip⟩, default, counter,
    (readTarget_codec offset).read first toDefault, _, cases, Scan.i32_codec.read trivial toCount,
    natural, _, cases, Scan.endOf_ok_iff.mpr ⟨by rwa [size], rfl, rfl⟩, pairs, after, ?_, rfl, rfl⟩
  rw [size]
  exact (Scan.times_codec (readPair_codec offset) _).read ⟨rfl, others⟩ passed

theorem readLookupSwitch_sound (read : readLookupSwitch offset before = .ok instruction after) :
    ∃ padded default pairs, instruction = .lookupSwitch default pairs ∧
      padded.length = padding before.position ∧ pairs.length < 2 ^ 31 ∧
      Fits32 (distance offset default) ∧ (∀ pair ∈ pairs, Fits32 (distance offset pair.2)) ∧
      Passed (padded ++ (word (distance offset default) ++ (word (pairs.length : Int) ++
        pairs.flatMap (pairBytes offset)))) before after := by
  simp only [readLookupSwitch, run_bind_iff, run_pure_iff, Scan.guard_ok_iff, Scan.position_ok_iff,
    Scan.advance_ok_iff, Scan.endOf_ok_iff] at read
  obtain ⟨_, _, ⟨rfl, rfl⟩, _, operands, ⟨padded, skipped, skip⟩, default, counter, toDefault,
    count, _, toCount, natural, _, cases, ⟨_, rfl, rfl⟩, pairs, _, listed, rfl, rfl⟩ := read
  obtain ⟨first, passedDefault⟩ := (readTarget_codec offset).sound _ _ _ toDefault
  obtain ⟨⟨size, others⟩, passed⟩ := (Scan.times_codec (readPair_codec offset) _).sound _ _ _ listed
  have positive : 0 ≤ count.toInt := by
    rw [Int32.lt_iff_toInt_lt] at natural
    exact Int.not_lt.mp natural
  have number : (pairs.length : Int) = count.toInt := by omega
  have limit := count.toInt_lt
  refine ⟨padded, default, pairs, rfl, skipped, by omega, first, others,
    skip.trans (passedDefault.trans (Passed.trans ?_ passed))⟩
  rw [number, word, Int32.ofInt_toInt]
  exact (Scan.i32_codec.sound _ _ _ toCount).2

-- What a resolved index becomes, by the family of the opcode. A load of a constant without a
-- value of its own is resolved only if that constant is a handle.
inductive Symbol (pool : Pool) (opcode : UInt8) (index : UInt16) (extra : Bytes) :
    Instruction → Prop where
  | field (family : Opcode.isFieldAccess opcode = true)
      (found : pool.memberRef index = .ok ⟨.field, owner, name, descriptor⟩) :
      Symbol pool opcode index extra (.field ⟨opcode, owner, name, descriptor, some index⟩)
  | method (family : Opcode.isInvocation opcode = true)
      (found : pool.memberRef index = .ok ⟨kind, owner, name, descriptor⟩) (callable : kind ≠ .field) :
      Symbol pool opcode index extra (.method ⟨opcode, owner, name, descriptor,
        decide (kind = .interfaceMethod), some index,
        if opcode = Opcode.invokeInterface then extra.head? else none⟩)
  | load (family : Opcode.isWideLoad opcode = true) (loaded : pool.loadable index = .ok value)
      (handled : ∀ given, value = .other given →
        ∃ constant, pool.get index = .ok constant ∧ constant.isHandle = true) :
      Symbol pool opcode index extra (.load ⟨opcode, value, some index⟩)

theorem reachesOpaqueText_eq_false_iff {pool : Pool} (loaded : pool.loadable index = .ok value) :
    pool.reachesOpaqueText index = false ↔ ∀ given, value = .other given →
      ∃ constant, pool.get index = .ok constant ∧ constant.isHandle = true := by
  rw [← Bool.not_eq_true, Pool.reachesOpaqueText_of_loads (Pool.loadable_ok_iff.mp loaded)]
  constructor
  · intro legible given same
    subst same
    obtain rfl := Pool.index_of_other loaded
    by_contra missing
    refine legible ⟨rfl, fun constant found => ?_⟩
    by_contra handle
    exact missing ⟨constant, found, by simpa using handle⟩
  · intro handled stated
    rcases stated with ⟨rfl, none⟩
    obtain ⟨constant, found, handle⟩ := handled index rfl
    rw [none constant found] at handle
    cases handle

theorem symbolic?_ok_iff {pool : Pool} :
    symbolic? pool opcode index extra = some (.ok instruction) ↔
      Symbol pool opcode index extra instruction := by
  constructor
  · intro read
    unfold symbolic? at read
    dsimp only at read
    split at read
    · cases read
    · rename_i legible
      split at read
      · rename_i family
        simp only [Option.some.injEq, bind_ok_iff] at read
        obtain ⟨⟨kind, owner, name, descriptor⟩, found, shown⟩ := read
        cases kind <;> cases shown
        exact .field family found
      · split at read
        · rename_i family
          simp only [Option.some.injEq, bind_ok_iff] at read
          obtain ⟨⟨kind, owner, name, descriptor⟩, found, shown⟩ := read
          cases kind <;> cases shown <;> exact .method family found (by simp)
        · split at read
          · rename_i family
            simp only [Option.some.injEq, bind_ok_iff, pure_ok_iff] at read
            obtain ⟨value, loaded, rfl⟩ := read
            exact .load family loaded
              ((reachesOpaqueText_eq_false_iff loaded).mp (by simpa using legible))
          · cases read
  · intro symbol
    cases symbol with
    | field family found =>
      simp only [symbolic?, Pool.reachesOpaqueText_of_member found, family, found]
      rfl
    | @method kind owner name descriptor family found callable =>
      have noField := (Opcode.families opcode).1 family
      simp only [symbolic?, Pool.reachesOpaqueText_of_member found, family, noField, found]
      cases kind
      · exact absurd rfl callable
      · rfl
      · rfl
    | load family loaded handled =>
      obtain ⟨noField, noCall⟩ := (Opcode.families opcode).2 family
      simp [symbolic?, (reachesOpaqueText_eq_false_iff loaded).mpr handled, family, noField, noCall,
        loaded]

theorem symbolic?_none_iff {pool : Pool} :
    symbolic? pool opcode index extra = none ↔
      pool.reachesOpaqueText index = true ∨ Opcode.isSymbolic opcode = false := by
  unfold symbolic? Opcode.isSymbolic
  cases pool.reachesOpaqueText index <;> cases Opcode.isFieldAccess opcode <;>
    cases Opcode.isInvocation opcode <;> cases Opcode.isWideLoad opcode <;> simp

-- The bytes of one instruction at an offset, and what they are read as. The targets are offsets
-- here. Switch padding may hold anything.
inductive Spells (pool : Pool) (offset : Nat) : Bytes → Instruction → Prop where
  | plain (assigned : Opcode.isReserved opcode = false) (shape : Opcode.layout opcode = .none) :
      Spells pool offset [opcode] (.other opcode [])
  | fixed (shape : Opcode.layout opcode = .fixed operands.length) :
      Spells pool offset (opcode :: operands) (.other opcode operands)
  | narrowLoad (loaded : pool.loadable index.toUInt16 = .ok value) :
      Spells pool offset [Opcode.ldc, index] (.load ⟨Opcode.ldc, value, some index.toUInt16⟩)
  | symbol (shape : Opcode.layout opcode = .poolIndex extra.length)
      (read : symbolic? pool opcode index extra = some (.ok instruction)) :
      Spells pool offset (opcode :: (Bytes.u16 index ++ extra)) instruction
  | reference (shape : Opcode.layout opcode = .poolIndex extra.length)
      (unread : symbolic? pool opcode index extra = none) :
      Spells pool offset (opcode :: (Bytes.u16 index ++ extra))
        (.other opcode (Bytes.u16 index ++ extra))
  | branch16 (shape : Opcode.layout opcode = .branch16)
      (near : fits16 (distance offset target) = true) :
      Spells pool offset (opcode :: Bytes.i16 (Int16.ofInt (distance offset target)))
        (.branch opcode target)
  | branch32 (shape : Opcode.layout opcode = .branch32) (near : Fits32 (distance offset target)) :
      Spells pool offset (opcode :: word (distance offset target)) (.branch opcode target)
  | tableSwitch {default : Nat} (skipped : padded.length = padding (offset + 1))
      (ordered : low ≤ high) (counted : (targets.length : Int) = high.toInt - low.toInt + 1)
      (first : Fits32 (distance offset default))
      (others : ∀ target ∈ targets, Fits32 (distance offset target)) :
      Spells pool offset
        (Opcode.tableSwitch :: (padded ++ (word (distance offset default) ++ (Bytes.i32 low ++
          (Bytes.i32 high ++ targets.flatMap fun target => word (distance offset target))))))
        (.tableSwitch default low high targets)
  | lookupSwitch {default : Nat} (skipped : padded.length = padding (offset + 1))
      (counted : pairs.length < 2 ^ 31) (first : Fits32 (distance offset default))
      (others : ∀ pair ∈ pairs, Fits32 (distance offset pair.2)) :
      Spells pool offset
        (Opcode.lookupSwitch :: (padded ++ (word (distance offset default) ++
          (word (pairs.length : Int) ++ pairs.flatMap (pairBytes offset)))))
        (.lookupSwitch default pairs)
  | wide (modifiable : Opcode.widened? modified = some operands.length) :
      Spells pool offset (Opcode.wide :: modified :: operands)
        (.other Opcode.wide (modified :: operands))

section Extension
variable {earlier later : Pool} (extended : Pool.Extends earlier later)
include extended

theorem Symbol.extends (symbol : Symbol earlier opcode index extra instruction) :
    Symbol later opcode index extra instruction := by
  cases symbol with
  | field family found => exact .field family (Pool.memberRef_extends extended found)
  | method family found callable => exact .method family (Pool.memberRef_extends extended found) callable
  | load family loaded handled =>
    refine .load family (Pool.loadable_extends extended loaded) fun given same => ?_
    obtain ⟨constant, found, handle⟩ := handled given same
    exact ⟨constant, Pool.get_extends extended found, handle⟩

theorem Spells.extends (spelled : Spells earlier offset piece instruction) :
    Spells later offset piece instruction := by
  cases spelled with
  | plain assigned shape => exact .plain assigned shape
  | fixed shape => exact .fixed shape
  | narrowLoad loaded => exact .narrowLoad (Pool.loadable_extends extended loaded)
  | symbol shape read =>
    exact .symbol shape (symbolic?_ok_iff.mpr ((symbolic?_ok_iff.mp read).extends extended))
  | reference shape unread =>
    refine .reference shape (symbolic?_none_iff.mpr ?_)
    exact (symbolic?_none_iff.mp unread).imp_left (Pool.reachesOpaqueText_extends extended)
  | branch16 shape near => exact .branch16 shape near
  | branch32 shape near => exact .branch32 shape near
  | tableSwitch skipped ordered counted first others =>
    exact .tableSwitch skipped ordered counted first others
  | lookupSwitch skipped counted first others => exact .lookupSwitch skipped counted first others
  | wide modifiable => exact .wide modifiable

end Extension

theorem readWide_ok_iff : readWide offset before = .ok instruction after ↔
    ∃ modified operands, instruction = .other Opcode.wide (modified :: operands) ∧
      Opcode.widened? modified = some operands.length ∧ Passed (modified :: operands) before after := by
  simp only [readWide, run_bind_iff]
  constructor
  · intro stated
    rcases stated with ⟨modified, middle, taken, shown⟩
    cases width : Opcode.widened? modified with
    | none =>
      rw [width] at shown
      cases shown
    | some size =>
      rw [width] at shown
      simp only [run_bind_iff, run_pure_iff] at shown
      obtain ⟨operands, _, others, rfl, rfl⟩ := shown
      obtain ⟨rfl, passed⟩ := (Scan.bytes_codec size).sound _ _ _ others
      exact ⟨modified, operands, rfl, width, (Scan.u8_codec.sound _ _ _ taken).2.trans passed⟩
  · intro stated
    rcases stated with ⟨modified, operands, rfl, width, passed⟩
    obtain ⟨middle, first, others⟩ := passed.first
    refine ⟨modified, middle, Scan.u8_codec.read trivial first, ?_⟩
    rw [width]
    simp only [run_bind_iff, run_pure_iff]
    exact ⟨operands, after, (Scan.bytes_codec _).read rfl others, rfl, rfl⟩

theorem readInstruction_complete (spelled : Spells pool before.position piece instruction)
    (passed : Passed piece before after) : readInstruction pool before = .ok instruction after := by
  have opening : ∀ opcode rest, Passed (opcode :: rest) before after →
      ∃ middle, Scan.u8 before = .ok opcode middle ∧ Passed rest middle after ∧
        middle.position = before.position + 1 := by
    intro opcode rest passed
    obtain ⟨middle, first, others⟩ := passed.first
    exact ⟨middle, Scan.u8_codec.read trivial first, others, first.position⟩
  simp only [readInstruction, run_bind_iff, Scan.guard_ok_iff]
  refine ⟨_, _, Scan.position_ok_iff.mpr ⟨rfl, rfl⟩, ?_⟩
  cases spelled with
  | @plain opcode assigned shape =>
    obtain ⟨middle, taken, passed, _⟩ := opening _ _ passed
    refine ⟨opcode, middle, taken, by simp [assigned], ?_⟩
    rw [shape]
    exact run_pure_iff.mpr ⟨rfl, passed.nil⟩
  | @fixed opcode operands shape =>
    obtain ⟨middle, taken, passed, _⟩ := opening _ _ passed
    refine ⟨opcode, middle, taken, by simp [Opcode.assigned_of_layout, shape], ?_⟩
    rw [shape]
    simp only [run_bind_iff, run_pure_iff]
    exact ⟨operands, after, (Scan.bytes_codec _).read rfl passed, rfl, rfl⟩
  | @narrowLoad value index loaded =>
    obtain ⟨middle, taken, passed, _⟩ := opening _ _ passed
    refine ⟨Opcode.ldc, middle, taken, by decide, ?_⟩
    rw [show Opcode.layout Opcode.ldc = .poolIndexU8 from rfl]
    simp only [run_bind_iff, run_pure_iff, Scan.lift_ok_iff]
    exact ⟨index, after, Scan.u8_codec.read trivial passed, value, after, ⟨loaded, rfl⟩, rfl, rfl⟩
  | @symbol opcode index extra _ shape read =>
    obtain ⟨middle, taken, passed, _⟩ := opening _ _ passed
    obtain ⟨last, indexed, passed⟩ := passed.split
    refine ⟨opcode, middle, taken, by simp [Opcode.assigned_of_layout, shape], ?_⟩
    rw [shape]
    simp only [run_bind_iff]
    refine ⟨index, last, Scan.u16_codec.read trivial indexed, extra, after,
      (Scan.bytes_codec _).read rfl passed, ?_⟩
    rw [read]
    rfl
  | @reference opcode index extra shape unread =>
    obtain ⟨middle, taken, passed, _⟩ := opening _ _ passed
    obtain ⟨last, indexed, passed⟩ := passed.split
    refine ⟨opcode, middle, taken, by simp [Opcode.assigned_of_layout, shape], ?_⟩
    rw [shape]
    simp only [run_bind_iff]
    refine ⟨index, last, Scan.u16_codec.read trivial indexed, extra, after,
      (Scan.bytes_codec _).read rfl passed, ?_⟩
    rw [unread]
    rfl
  | @branch16 opcode target shape near =>
    obtain ⟨middle, taken, passed, _⟩ := opening _ _ passed
    refine ⟨opcode, middle, taken, by simp [Opcode.assigned_of_layout, shape], ?_⟩
    rw [shape]
    simp only [run_bind_iff, run_pure_iff, Scan.lift_ok_iff, absolute_ok_iff]
    obtain ⟨low, high⟩ := (fits16_iff _).mp near
    refine ⟨_, after, Scan.i16_codec.read trivial passed, target, after, ⟨?_, rfl⟩, rfl, rfl⟩
    rw [Int16.toInt_toInt32, Int16.toInt_ofInt_of_le low high, distance]
    omega
  | @branch32 opcode target shape near =>
    obtain ⟨middle, taken, passed, _⟩ := opening _ _ passed
    refine ⟨opcode, middle, taken, by simp [Opcode.assigned_of_layout, shape], ?_⟩
    rw [shape]
    simp only [run_bind_iff, run_pure_iff]
    exact ⟨target, after, (readTarget_codec _).read near passed, rfl, rfl⟩
  | tableSwitch skipped ordered counted first others =>
    obtain ⟨middle, taken, passed, moved⟩ := opening _ _ passed
    refine ⟨Opcode.tableSwitch, middle, taken, by decide, ?_⟩
    exact readTableSwitch_complete (by rw [moved, skipped]) ordered counted first others passed
  | lookupSwitch skipped counted first others =>
    obtain ⟨middle, taken, passed, moved⟩ := opening _ _ passed
    refine ⟨Opcode.lookupSwitch, middle, taken, by decide, ?_⟩
    exact readLookupSwitch_complete (by rw [moved, skipped]) counted first others passed
  | @wide modified operands modifiable =>
    obtain ⟨middle, taken, passed, _⟩ := opening _ _ passed
    refine ⟨Opcode.wide, middle, taken, by decide, ?_⟩
    exact readWide_ok_iff.mpr ⟨modified, operands, rfl, modifiable, passed⟩

theorem readInstruction_sound (read : readInstruction pool before = .ok instruction after) :
    ∃ piece, Spells pool before.position piece instruction ∧ Passed piece before after := by
  simp only [readInstruction, run_bind_iff, Scan.guard_ok_iff, Scan.position_ok_iff] at read
  obtain ⟨_, _, ⟨rfl, rfl⟩, opcode, middle, taken, assigned, shown⟩ := read
  have first := (Scan.u8_codec.sound _ _ _ taken).2
  have moved := first.position
  cases shape : Opcode.layout opcode with
  | none =>
    rw [shape] at shown
    obtain ⟨rfl, rfl⟩ := run_pure_iff.mp shown
    exact ⟨_, .plain (by simpa using assigned) shape, first⟩
  | fixed size =>
    rw [shape] at shown
    simp only [run_bind_iff, run_pure_iff] at shown
    obtain ⟨operands, _, others, rfl, rfl⟩ := shown
    obtain ⟨rfl, passed⟩ := (Scan.bytes_codec size).sound _ _ _ others
    exact ⟨_, .fixed shape, first.trans passed⟩
  | poolIndexU8 =>
    rw [shape] at shown
    obtain rfl := (Opcode.eq_of_layout opcode).1 shape
    simp only [run_bind_iff, run_pure_iff, Scan.lift_ok_iff] at shown
    obtain ⟨index, _, indexed, value, _, ⟨loaded, rfl⟩, rfl, rfl⟩ := shown
    exact ⟨_, .narrowLoad loaded, first.trans (Scan.u8_codec.sound _ _ _ indexed).2⟩
  | poolIndex size =>
    rw [shape] at shown
    simp only [run_bind_iff] at shown
    obtain ⟨index, last, indexed, extra, _, others, shown⟩ := shown
    obtain ⟨rfl, passed⟩ := (Scan.bytes_codec size).sound _ _ _ others
    have whole := first.trans ((Scan.u16_codec.sound _ _ _ indexed).2.trans passed)
    cases symbol : symbolic? pool opcode index extra with
    | none =>
      rw [symbol] at shown
      obtain ⟨rfl, rfl⟩ := run_pure_iff.mp shown
      exact ⟨_, .reference shape symbol, whole⟩
    | some result =>
      rw [symbol] at shown
      obtain ⟨rfl, rfl⟩ := Scan.lift_ok_iff.mp shown
      exact ⟨_, .symbol shape symbol, whole⟩
  | branch16 =>
    rw [shape] at shown
    simp only [run_bind_iff, run_pure_iff, Scan.lift_ok_iff, absolute_ok_iff] at shown
    obtain ⟨near, _, jumped, target, _, ⟨same, rfl⟩, rfl, rfl⟩ := shown
    rw [Int16.toInt_toInt32] at same
    have stored : distance before.position target = near.toInt := by unfold distance; omega
    have fits : fits16 (distance before.position target) = true := by
      rw [fits16_iff, stored]
      exact ⟨near.le_toInt, near.toInt_lt⟩
    refine ⟨_, .branch16 shape fits, first.trans ?_⟩
    rw [stored, Int16.ofInt_toInt]
    exact (Scan.i16_codec.sound _ _ _ jumped).2
  | branch32 =>
    rw [shape] at shown
    simp only [run_bind_iff, run_pure_iff] at shown
    obtain ⟨target, _, jumped, rfl, rfl⟩ := shown
    obtain ⟨near, passed⟩ := (readTarget_codec _).sound _ _ _ jumped
    exact ⟨_, .branch32 shape near, first.trans passed⟩
  | tableSwitch =>
    rw [shape] at shown
    obtain rfl := (Opcode.eq_of_layout opcode).2.1 shape
    obtain ⟨padded, default, low, high, targets, rfl, skipped, ordered, counted, near, others,
      passed⟩ := readTableSwitch_sound shown
    have aligned : padded.length = padding (before.position + 1) := by rw [skipped, moved]; rfl
    exact ⟨_, .tableSwitch aligned ordered counted near others, first.trans passed⟩
  | lookupSwitch =>
    rw [shape] at shown
    obtain rfl := (Opcode.eq_of_layout opcode).2.2.1 shape
    obtain ⟨padded, default, pairs, rfl, skipped, counted, near, others, passed⟩ :=
      readLookupSwitch_sound shown
    have aligned : padded.length = padding (before.position + 1) := by rw [skipped, moved]; rfl
    exact ⟨_, .lookupSwitch aligned counted near others, first.trans passed⟩
  | wide =>
    rw [shape] at shown
    obtain rfl := (Opcode.eq_of_layout opcode).2.2.2 shape
    obtain ⟨modified, operands, rfl, modifiable, passed⟩ := readWide_ok_iff.mp shown
    exact ⟨_, .wide modifiable, first.trans passed⟩

end Body
end ClassRename
