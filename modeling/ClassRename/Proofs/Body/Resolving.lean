import ClassRename.Proofs.Body.Layout

namespace ClassRename
open Effects

def Invocation.counted (call : Invocation) : Invocation :=
  let count := call.count.getD (Descriptor.interfaceArgumentCount call.descriptor)
  { call with count := if call.opcode = Opcode.invokeInterface then some count else none }

namespace Instruction

def counted : Instruction → Instruction
  | .method call => .method call.counted
  | instruction => instruction

-- The same instruction, but for the pool index and a wider opcode for the same purpose.
inductive Respelled : Instruction → Instruction → Prop where
  | same : Respelled instruction instruction
  | field : Respelled (.field access) (.field { access with index := index })
  | method : Respelled (.method call) (.method { call with index := index })
  | load : Respelled (.load constant) (.load { constant with index := index })
  | highIndex (high : 255 < index) :
      Respelled (.load ⟨Opcode.ldc, value, hint⟩) (.load ⟨Opcode.ldcW, value, some index⟩)
  | wideValue {opcode : UInt8} (single : opcode = Opcode.ldc ∨ opcode = Opcode.ldcW)
      (wide : value.isWide = true) :
      Respelled (.load ⟨opcode, value, hint⟩) (.load ⟨Opcode.ldc2W, value, index⟩)
  | goto : Respelled (.branch Opcode.goto target) (.branch Opcode.gotoW target)
  | jsr : Respelled (.branch Opcode.jsr target) (.branch Opcode.jsrW target)

def Reloads (pool : Pool) (opcode : UInt8) (index : UInt16) : Prop :=
  (∃ constant, pool.get index = .ok constant ∧ constant.isHandle = true) ∨
    (opcode = Opcode.ldc ∧ index ≤ 255 ∧ pool.loadable index = .ok (.other index))

-- Instructions that the format has a place for. Of an opcode that is resolved to names the raw
-- form stands only where the names lead through text that cannot be read.
inductive WellFormed (pool : Pool) : Instruction → Prop where
  | field (family : Opcode.isFieldAccess access.opcode = true) : WellFormed pool (.field access)
  | method (family : Opcode.isInvocation call.opcode = true) : WellFormed pool (.method call)
  | load (family : constant.opcode = Opcode.ldc ∨ Opcode.isWideLoad constant.opcode = true)
      (reloads : ∀ index, constant.value = .other index → Reloads pool constant.opcode index) :
      WellFormed pool (.load constant)
  | branch {opcode : UInt8}
      (family : Opcode.layout opcode = .branch16 ∨ Opcode.layout opcode = .branch32) :
      WellFormed pool (.branch opcode target)
  | tableSwitch {default : Nat} {targets : List Nat} (ordered : low ≤ high)
      (counted : (targets.length : Int) = high.toInt - low.toInt + 1) :
      WellFormed pool (.tableSwitch default low high targets)
  | lookupSwitch {default : Nat} : WellFormed pool (.lookupSwitch default pairs)
  | plain {opcode : UInt8} (assigned : Opcode.isReserved opcode = false)
      (shape : Opcode.layout opcode = .none) :
      WellFormed pool (.other opcode [])
  | fixed {opcode : UInt8} (shape : Opcode.layout opcode = .fixed operands.length) :
      WellFormed pool (.other opcode operands)
  | reference {opcode : UInt8} (shape : Opcode.layout opcode = .poolIndex extra.length)
      (unread : Opcode.isSymbolic opcode = false ∨ pool.reachesOpaqueText index = true) :
      WellFormed pool (.other opcode (Bytes.u16 index ++ extra))
  | wide (modifiable : Opcode.widened? modified = some operands.length) :
      WellFormed pool (.other Opcode.wide (modified :: operands))

theorem Reloads.loadable {opcode : UInt8} (reloads : Reloads pool opcode index) :
    pool.loadable index = .ok (.other index) := by
  rcases reloads with ⟨constant, found, handle⟩ | ⟨_, _, loaded⟩
  · exact Pool.loadable_ok_iff.mpr (.handle found handle)
  · exact loaded

theorem Reloads.extends {opcode : UInt8} (extended : Pool.Extends earlier later)
    (reloads : Reloads earlier opcode index) : Reloads later opcode index := by
  rcases reloads with ⟨constant, found, handle⟩ | ⟨narrow, low, loaded⟩
  · exact .inl ⟨constant, Pool.get_extends extended found, handle⟩
  · exact .inr ⟨narrow, low, Pool.loadable_extends extended loaded⟩

theorem WellFormed.extends (extended : Pool.Extends earlier later)
    (wellFormed : WellFormed earlier instruction) : WellFormed later instruction := by
  cases wellFormed with
  | field family => exact .field family
  | method family => exact .method family
  | load family reloads => exact .load family fun index same => (reloads index same).extends extended
  | branch family => exact .branch family
  | tableSwitch ordered counted => exact .tableSwitch ordered counted
  | lookupSwitch => exact .lookupSwitch
  | plain assigned shape => exact .plain assigned shape
  | fixed shape => exact .fixed shape
  | reference shape unread =>
    exact .reference shape (unread.imp_right (Pool.reachesOpaqueText_extends extended))
  | wide modifiable => exact .wide modifiable

end Instruction

namespace Opcode

theorem layout_of_field {opcode : UInt8} (family : isFieldAccess opcode = true) :
    layout opcode = .poolIndex 0 := by
  have all : ∀ value : Fin 256,
      isFieldAccess (.ofFin value) = true → layout (.ofFin value) = .poolIndex 0 := by
    decide +kernel
  exact all opcode.toFin family

theorem layout_of_invocation {opcode : UInt8} (family : isInvocation opcode = true) :
    layout opcode = .poolIndex (if opcode = invokeInterface then 2 else 0) := by
  have all : ∀ value : Fin 256, isInvocation (.ofFin value) = true →
      layout (.ofFin value) = .poolIndex (if .ofFin value = invokeInterface then 2 else 0) := by
    decide +kernel
  exact all opcode.toFin family

theorem layout_of_wideLoad {opcode : UInt8} (family : isWideLoad opcode = true) :
    layout opcode = .poolIndex 0 := by
  have all : ∀ value : Fin 256,
      isWideLoad (.ofFin value) = true → layout (.ofFin value) = .poolIndex 0 := by
    decide +kernel
  exact all opcode.toFin family

theorem wideLoad_cases {opcode : UInt8} (family : isWideLoad opcode = true) :
    opcode = ldcW ∨ opcode = ldc2W := by
  simpa [isWideLoad] using family

theorem ne_ldc_of_wideLoad {opcode : UInt8} (family : isWideLoad opcode = true) : opcode ≠ ldc := by
  rcases wideLoad_cases family with rfl | rfl <;> decide

theorem isWideJump_eq (opcode : UInt8) :
    (layout opcode = .branch16 → isWideJump opcode = false) ∧
      (layout opcode = .branch32 → isWideJump opcode = true) := by
  have all : ∀ value : Fin 256,
      (layout (.ofFin value) = .branch16 → isWideJump (.ofFin value) = false) ∧
        (layout (.ofFin value) = .branch32 → isWideJump (.ofFin value) = true) := by
    decide +kernel
  exact all opcode.toFin

end Opcode

namespace Body
open Instruction

inductive Form.Reads (pool : Pool) : Form → Instruction → Prop where
  | fixed (spelled : ∀ offset, Spells pool offset bytes instruction)
      (still : instruction.targets = []) : Reads pool (.fixed bytes) instruction
  | jump {opcode : UInt8}
      (shape : Opcode.layout opcode = .branch16 ∨ Opcode.layout opcode = .branch32) :
      Reads pool (.jump opcode target) (.branch opcode target)
  | tableSwitch {default : Nat} {targets : List Nat} (ordered : low ≤ high)
      (counted : (targets.length : Int) = high.toInt - low.toInt + 1) :
      Reads pool (.tableSwitch default low high targets) (.tableSwitch default low high targets)
  | lookupSwitch {default : Nat} :
      Reads pool (.lookupSwitch default pairs) (.lookupSwitch default pairs)

theorem Form.Reads.extends (extended : Pool.Extends earlier later)
    (reads : Form.Reads earlier form instruction) : Form.Reads later form instruction := by
  cases reads with
  | fixed spelled still => exact .fixed (fun offset => (spelled offset).extends extended) still
  | jump shape => exact .jump shape
  | tableSwitch ordered counted => exact .tableSwitch ordered counted
  | lookupSwitch => exact .lookupSwitch

-- A form made for one instruction and read as another: they agree, and the other one is made
-- into this form again, now and in every pool that grows out of this one.
structure Settled (pool : Pool) (instruction : Instruction) (form : Form) (final : Instruction) :
    Prop where
  reads : form.Reads pool final
  respelled : Respelled instruction.counted final
  again : ∀ later, Pool.Extends pool later → resolve final later = .ok form later

theorem Settled.extends (extended : Pool.Extends earlier later)
    (settled : Settled earlier instruction form final) : Settled later instruction form final :=
  ⟨settled.reads.extends extended, settled.respelled,
    fun last further => settled.again last (extended.trans further)⟩

theorem settled_field (access : FieldAccess) (family : Opcode.isFieldAccess access.opcode = true)
    (found : Pool.memberRef pool index = .ok access.member) :
    Settled pool (.field access) (.fixed (access.opcode :: Bytes.u16 index))
      (.field { access with index := some index }) := by
  refine ⟨.fixed (fun offset => ?_) rfl, .field, ?_⟩
  · rw [← List.append_nil (Bytes.u16 index)]
    exact .symbol (Opcode.layout_of_field family) (symbolic?_ok_iff.mpr (.field family found))
  · intro later extended
    have again := Pool.memberRef_extends extended found
    exact run_bind_iff.mpr ⟨index, later, Pool.memberIndex_reuses again, rfl⟩

theorem counted_eq (call : Invocation) (index : UInt16) :
    { call.counted with index := some index } =
      (⟨call.opcode, call.owner, call.name, call.descriptor,
        decide (call.member.kind = .interfaceMethod), some index,
        if call.opcode = Opcode.invokeInterface then (callSuffix call).head? else none⟩ : Invocation) := by
  have kind : decide (call.member.kind = .interfaceMethod) = call.isInterface := by
    rw [Invocation.member]
    cases call.isInterface <;> rfl
  rw [kind, Invocation.counted, callSuffix]
  split <;> rfl

theorem callSuffix_counted (call : Invocation) (index : Option UInt16) :
    callSuffix { call.counted with index := index } = callSuffix call := by
  simp only [callSuffix, Invocation.counted]
  split <;> rfl

theorem settled_method (call : Invocation) (family : Opcode.isInvocation call.opcode = true)
    (found : Pool.memberRef pool index = .ok call.member) :
    Settled pool (.method call) (.fixed (call.opcode :: Bytes.u16 index ++ callSuffix call))
      (.method { call.counted with index := some index }) := by
  refine ⟨.fixed (fun offset => ?_) rfl, .method, ?_⟩
  · have shape : Opcode.layout call.opcode = .poolIndex (callSuffix call).length := by
      rw [Opcode.layout_of_invocation family, callSuffix]
      split <;> rfl
    have callable : call.member.kind ≠ .field := by
      rw [Invocation.member]
      cases call.isInterface <;> simp
    rw [counted_eq]
    exact .symbol shape (symbolic?_ok_iff.mpr (.method family found callable))
  · intro later extended
    have again := Pool.memberRef_extends extended found
    refine run_bind_iff.mpr ⟨index, later, Pool.memberIndex_reuses again, ?_⟩
    rw [callSuffix_counted]
    rfl

theorem toUInt8_toUInt16 {index : UInt16} (low : index ≤ 255) : index.toUInt8.toUInt16 = index := by
  apply UInt16.toNat_inj.mp
  have small : index.toNat ≤ 255 := low
  rw [UInt8.toNat_toUInt16, UInt16.toNat_toUInt8, Nat.mod_eq_of_lt (by omega)]

theorem toUInt16_low (index : UInt8) : index.toUInt16 ≤ 255 :=
  UInt16.le_iff_toNat_le.mpr (by simpa using Nat.le_of_lt_succ index.toNat_lt)

theorem loadOpcode_wide {constant : ConstantLoad} (wide : constant.value.isWide = true)
    (index : UInt16) : loadOpcode constant index = Opcode.ldc2W := by
  rw [loadOpcode, if_pos wide]

theorem loadOpcode_high {constant : ConstantLoad} (single : constant.value.isWide = false)
    (narrow : constant.opcode = Opcode.ldc) (high : 255 < index) :
    loadOpcode constant index = Opcode.ldcW := by
  rw [loadOpcode, single, if_neg Bool.false_ne_true, if_pos ⟨narrow, high⟩]

theorem loadOpcode_kept {constant : ConstantLoad} (single : constant.value.isWide = false)
    (fits : ¬ (constant.opcode = Opcode.ldc ∧ 255 < index)) :
    loadOpcode constant index = constant.opcode := by
  rw [loadOpcode, single, if_neg Bool.false_ne_true, if_neg fits]

theorem loadOpcode_again (constant : ConstantLoad) (index : UInt16) (hint : Option UInt16) :
    loadOpcode ⟨loadOpcode constant index, constant.value, hint⟩ index = loadOpcode constant index := by
  cases width : constant.value.isWide with
  | true => rw [loadOpcode_wide width, loadOpcode_wide (by exact width)]
  | false =>
    by_cases high : constant.opcode = Opcode.ldc ∧ 255 < index
    · rw [loadOpcode_high width high.1 high.2]
      exact loadOpcode_kept width (fun narrow => absurd narrow.1 (show Opcode.ldcW ≠ Opcode.ldc by decide))
    · rw [loadOpcode_kept width high]
      exact loadOpcode_kept width high

theorem settled_load (constant : ConstantLoad)
    (family : constant.opcode = Opcode.ldc ∨ Opcode.isWideLoad constant.opcode = true)
    (reloads : ∀ given, constant.value = .other given → Reloads pool constant.opcode given)
    (found : Pool.loadable pool index = .ok constant.value) :
    Settled pool (.load constant) (.fixed (loadBytes constant index))
      (.load ⟨loadOpcode constant index, constant.value, some index⟩) := by
  obtain ⟨opcode, value, hint⟩ := constant
  dsimp only at family reloads found
  have again : ∀ later, Pool.Extends pool later →
      resolve (.load ⟨loadOpcode ⟨opcode, value, hint⟩ index, value, some index⟩) later =
        .ok (.fixed (loadBytes ⟨opcode, value, hint⟩ index)) later := by
    intro later extended
    have same := Pool.loadableIndex_reuses (Pool.loadable_extends extended found)
    refine run_bind_iff.mpr ⟨index, later, same, ?_⟩
    rw [loadBytes, loadOpcode_again ⟨opcode, value, hint⟩]
    rfl
  -- A constant without a value of its own stays where it is, so its index is the one it had.
  have resolved : ∀ wider, Opcode.isWideLoad wider = true →
      (∀ given, value = .other given → opcode = Opcode.ldc → 255 < index) → ∀ offset,
      Spells pool offset (wider :: Bytes.u16 index) (.load ⟨wider, value, some index⟩) := by
    intro wider wide high offset
    rw [← List.append_nil (Bytes.u16 index)]
    refine .symbol (Opcode.layout_of_wideLoad wide) (symbolic?_ok_iff.mpr (.load wide found ?_))
    intro given same
    subst same
    obtain rfl := Pool.index_of_other found
    rcases reloads _ rfl with handle | ⟨narrow, low, _⟩
    · exact handle
    · exact absurd (high _ rfl narrow) (by simpa using low)
  cases width : value.isWide with
  | true =>
    have chosen : loadOpcode ⟨opcode, value, hint⟩ index = Opcode.ldc2W := loadOpcode_wide width index
    refine ⟨.fixed (fun offset => ?_) rfl, ?_, again⟩
    · rw [loadBytes, chosen]
      exact resolved _ rfl (fun given same => by subst same; cases width) offset
    · rw [chosen]
      rcases family with narrow | wide
      · exact .wideValue (.inl narrow) width
      · rcases Opcode.wideLoad_cases wide with same | same
        · exact .wideValue (.inr same) width
        · rw [← same]
          exact .load
  | false =>
    by_cases high : opcode = Opcode.ldc ∧ 255 < index
    · have chosen : loadOpcode ⟨opcode, value, hint⟩ index = Opcode.ldcW :=
        loadOpcode_high width high.1 high.2
      refine ⟨.fixed (fun offset => ?_) rfl, ?_, again⟩
      · rw [loadBytes, chosen]
        exact resolved _ rfl (fun _ _ _ => high.2) offset
      · rw [chosen, high.1]
        exact .highIndex high.2
    · have chosen : loadOpcode ⟨opcode, value, hint⟩ index = opcode := loadOpcode_kept width high
      refine ⟨.fixed (fun offset => ?_) rfl, ?_, again⟩
      · rw [loadBytes, chosen]
        rcases family with rfl | wide
        · have low : index ≤ 255 := by simpa using high
          have spelled : Spells pool offset [Opcode.ldc, index.toUInt8]
              (.load ⟨Opcode.ldc, value, some index.toUInt8.toUInt16⟩) :=
            .narrowLoad (by rwa [toUInt8_toUInt16 low])
          rwa [toUInt8_toUInt16 low] at spelled
        · have other : opcode ≠ Opcode.ldc := by
            rcases Opcode.wideLoad_cases wide with rfl | rfl <;> decide
          dsimp only
          rw [if_neg other]
          exact resolved _ wide (fun _ _ narrow => absurd narrow other) offset
      · rw [chosen]
        exact .load

theorem settled_other {opcode : UInt8} (spelled : ∀ offset,
      Spells pool offset (opcode :: operands) (.other opcode operands)) :
    Settled pool (.other opcode operands) (.fixed (opcode :: operands)) (.other opcode operands) :=
  ⟨.fixed spelled rfl, .same, fun _ _ => rfl⟩

theorem resolve_sound (sound : Pool.Sound pool) (wellFormed : WellFormed pool instruction)
    (ran : resolve instruction pool = .ok form later) :
    Pool.Grown pool later ∧ ∃ final, Settled later instruction form final := by
  cases wellFormed with
  | @field access family =>
    obtain ⟨index, _, found, ran⟩ := run_bind_iff.mp ran
    obtain ⟨rfl, rfl⟩ := run_pure_iff.mp ran
    exact ⟨(Pool.grows_memberIndex _ _).ok found, _,
      settled_field access family (Pool.memberRef_of_memberIndex sound found)⟩
  | @method call family =>
    obtain ⟨index, _, found, ran⟩ := run_bind_iff.mp ran
    obtain ⟨rfl, rfl⟩ := run_pure_iff.mp ran
    exact ⟨(Pool.grows_memberIndex _ _).ok found, _,
      settled_method call family (Pool.memberRef_of_memberIndex sound found)⟩
  | @load constant family reloads =>
    obtain ⟨index, _, found, ran⟩ := run_bind_iff.mp ran
    obtain ⟨rfl, rfl⟩ := run_pure_iff.mp ran
    have grown := (Pool.grows_loadableIndex _ _).ok found
    have loaded := Pool.loadable_of_loadableIndex sound
      (fun given same => (reloads given same).loadable) found
    exact ⟨grown, _, settled_load constant family
      (fun given same => (reloads given same).extends grown.extends) loaded⟩
  | branch family =>
    obtain ⟨rfl, rfl⟩ := run_pure_iff.mp ran
    exact ⟨.refl, _, .jump family, .same, fun _ _ => rfl⟩
  | tableSwitch ordered counted =>
    obtain ⟨rfl, rfl⟩ := run_pure_iff.mp ran
    exact ⟨.refl, _, .tableSwitch ordered counted, .same, fun _ _ => rfl⟩
  | lookupSwitch =>
    obtain ⟨rfl, rfl⟩ := run_pure_iff.mp ran
    exact ⟨.refl, _, .lookupSwitch, .same, fun _ _ => rfl⟩
  | plain assigned shape =>
    obtain ⟨rfl, rfl⟩ := run_pure_iff.mp ran
    exact ⟨.refl, _, settled_other fun _ => .plain assigned shape⟩
  | fixed shape =>
    obtain ⟨rfl, rfl⟩ := run_pure_iff.mp ran
    exact ⟨.refl, _, settled_other fun _ => .fixed shape⟩
  | reference shape unread =>
    obtain ⟨rfl, rfl⟩ := run_pure_iff.mp ran
    exact ⟨.refl, _, settled_other fun _ => .reference shape (symbolic?_none_iff.mpr unread.symm)⟩
  | wide modifiable =>
    obtain ⟨rfl, rfl⟩ := run_pure_iff.mp ran
    exact ⟨.refl, _, settled_other fun _ => .wide modifiable⟩

inductive Formed (index : UInt16) : Instruction → Form → Prop where
  | field : Formed index (.field access) (.fixed (access.opcode :: Bytes.u16 index))
  | method : Formed index (.method call) (.fixed (call.opcode :: Bytes.u16 index ++ callSuffix call))
  | load : Formed index (.load constant) (.fixed (loadBytes constant index))
  | branch {opcode : UInt8} : Formed index (.branch opcode target) (.jump opcode target)
  | tableSwitch {default : Nat} {targets : List Nat} :
      Formed index (.tableSwitch default low high targets) (.tableSwitch default low high targets)
  | lookupSwitch {default : Nat} :
      Formed index (.lookupSwitch default pairs) (.lookupSwitch default pairs)
  | other {opcode : UInt8} : Formed index (.other opcode operands) (.fixed (opcode :: operands))

theorem resolve_formed (ran : resolve instruction pool = .ok form later) :
    ∃ index, Formed index instruction form := by
  cases instruction with
  | field | method | load =>
    obtain ⟨index, _, _, ran⟩ := run_bind_iff.mp ran
    obtain ⟨rfl, _⟩ := run_pure_iff.mp ran
    exact ⟨index, by constructor⟩
  | branch | tableSwitch | lookupSwitch | other =>
    obtain ⟨rfl, _⟩ := run_pure_iff.mp ran
    exact ⟨0, by constructor⟩

theorem Symbol.resolves {opcode : UInt8} (symbol : Symbol pool opcode index extra instruction) :
    ∃ form, Formed index instruction form ∧ resolve instruction pool = .ok form pool := by
  cases symbol with
  | field family found =>
    have ran := Pool.memberIndex_reuses found
    exact ⟨_, .field, run_bind_iff.mpr ⟨index, pool, ran, rfl⟩⟩
  | @method kind owner name descriptor family found callable =>
    have member : Invocation.member ⟨opcode, owner, name, descriptor,
        decide (kind = .interfaceMethod), some index,
        if opcode = Opcode.invokeInterface then extra.head? else none⟩ =
          ⟨kind, owner, name, descriptor⟩ := by
      cases kind <;> first | rfl | exact absurd rfl callable
    have ran := Pool.memberIndex_reuses found
    rw [← member] at ran
    exact ⟨_, .method, run_bind_iff.mpr ⟨index, pool, ran, rfl⟩⟩
  | load family loaded =>
    have ran := Pool.loadableIndex_reuses loaded
    exact ⟨_, .load, run_bind_iff.mpr ⟨index, pool, ran, rfl⟩⟩

theorem Settled.widened (settled : Settled pool instruction form final)
    (widened : Widened form wider) : ∃ final, Settled pool instruction wider final := by
  cases widened with
  | same => exact ⟨final, settled⟩
  | @wide opcode target narrow =>
    obtain ⟨reads, respelled, _⟩ := settled
    cases reads with
    | jump shape =>
      have agrees : Respelled instruction.counted (.branch (Opcode.wideJump opcode) target) := by
        generalize instruction.counted = given at respelled
        rcases Opcode.narrow_cases narrow with rfl | rfl
        · cases respelled
          exact .goto
        · cases respelled
          exact .jsr
      have wide : Opcode.layout (Opcode.wideJump opcode) = .branch32 := by
        rcases Opcode.narrow_cases narrow with rfl | rfl <;> rfl
      exact ⟨_, .jump (.inr wide), agrees, fun _ _ => rfl⟩

end Body
end ClassRename
