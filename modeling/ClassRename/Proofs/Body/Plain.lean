import ClassRename.Proofs.Body.Recoding

namespace ClassRename
open Effects

namespace Instruction

-- The bytes from the start of an instruction on hold no more than the instruction says: switch
-- padding and the last byte of an interface call are zero, and no load of a single word loads a
-- double one.
structure Plain (bytes : Bytes) (start : Nat) (instruction : Instruction) : Prop where
  padded : instruction.opcode = Opcode.tableSwitch ∨ instruction.opcode = Opcode.lookupSwitch →
    ∀ skipped < Body.padding (start + 1), bytes[1 + skipped]? = some 0
  called : instruction.opcode = Opcode.invokeInterface → bytes[4]? = some 0
  loaded : ∀ constant, instruction = .load constant →
    constant.opcode = Opcode.ldc ∨ constant.opcode = Opcode.ldcW → constant.value.isWide = false

theorem WellFormed.of_mapTargets {final : Instruction} {place : Nat → Nat}
    (wellFormed : WellFormed pool (final.mapTargets place)) : WellFormed pool final := by
  cases final with
  | branch opcode target =>
    cases wellFormed with
    | branch family => exact .branch family
  | tableSwitch default low high targets =>
    cases wellFormed with
    | tableSwitch ordered counted => exact .tableSwitch ordered (by simpa using counted)
  | lookupSwitch default pairs => exact .lookupSwitch
  | field | method | load | other => exact wellFormed

end Instruction

namespace Body
open Instruction

theorem Symbol.wellFormed {opcode : UInt8} (symbol : Symbol pool opcode index extra instruction) :
    WellFormed pool instruction := by
  cases symbol with
  | field family => exact .field family
  | method family => exact .method family
  | load family loaded handled =>
    refine .load (.inr family) fun given same => .inl ?_
    cases same
    obtain rfl := Pool.index_of_other loaded
    exact handled _ rfl

theorem Spells.wellFormed (spelled : Spells pool offset piece instruction) :
    WellFormed pool instruction := by
  cases spelled with
  | plain assigned shape => exact .plain assigned shape
  | fixed shape => exact .fixed shape
  | @narrowLoad value index loaded =>
    refine .load (.inl rfl) fun given same => ?_
    cases same
    obtain rfl := Pool.index_of_other loaded
    exact .inr ⟨rfl, toUInt16_low index, loaded⟩
  | symbol _ read => exact (symbolic?_ok_iff.mp read).wellFormed
  | reference shape unread => exact .reference shape (symbolic?_none_iff.mp unread).symm
  | branch16 shape => exact .branch (.inl shape)
  | branch32 shape => exact .branch (.inr shape)
  | tableSwitch _ ordered counted => exact .tableSwitch ordered counted
  | lookupSwitch => exact .lookupSwitch
  | wide modifiable => exact .wide modifiable

theorem Walk.spelled (walk : Walk pool offset code starts instructions) :
    ∀ instruction ∈ instructions, ∃ start piece, Spells pool start piece instruction := by
  induction walk with
  | done => simp
  | step spelled _ ih => exact List.forall_mem_cons.mpr ⟨⟨_, _, spelled⟩, ih⟩

theorem Decodes.wellFormed (decodes : Decodes pool code body starts) :
    ∀ instruction ∈ body.instructions, WellFormed pool instruction := by
  intro instruction member
  obtain ⟨_, _, spelled⟩ := decodes.walk.spelled _ (List.mem_map_of_mem member)
  exact spelled.wellFormed.of_mapTargets

theorem Spells.counted (spelled : Spells pool offset piece instruction) :
    instruction.counted = instruction := by
  cases spelled with
  | @symbol opcode index extra _ shape read =>
    cases symbolic?_ok_iff.mp read with
    | field | load => rfl
    | method family =>
      simp only [Instruction.counted, Invocation.counted]
      split
      · rename_i interface
        rw [Opcode.layout_of_invocation family, if_pos interface] at shape
        cases extra with
        | nil => cases shape
        | cons => rfl
      · rfl
  | _ => rfl

theorem Decodes.counted (decodes : Decodes pool code body starts) :
    ∀ instruction ∈ body.instructions, instruction.counted = instruction := by
  intro instruction member
  obtain ⟨_, _, spelled⟩ := decodes.walk.spelled _ (List.mem_map_of_mem member)
  have same := spelled.counted
  cases instruction with
  | method call => exact same
  | field | load | branch | tableSwitch | lookupSwitch | other => rfl

def Restores (pool : Pool) (offsets : Offsets) (offset : Nat) (piece : Bytes)
    (instruction : Instruction) : Prop :=
  ∃ form, resolve instruction pool = .ok form pool ∧ form.Reaches offsets offset ∧
    form.spelled offsets offset = piece

theorem restores_fixed (ran : resolve instruction pool = .ok (.fixed piece) pool) :
    Restores pool offsets offset piece instruction :=
  ⟨.fixed piece, ran, ⟨by simp [Form.targets], by simp⟩, rfl⟩

theorem restores_narrowLoad {index : UInt8} (loaded : Pool.loadable pool index.toUInt16 = .ok value)
    (plain : Instruction.Plain bytes offset (.load ⟨Opcode.ldc, value, some index.toUInt16⟩)) :
    Restores pool offsets offset [Opcode.ldc, index]
      (.load ⟨Opcode.ldc, value, some index.toUInt16⟩) := by
  have single : value.isWide = false := plain.loaded _ rfl (.inl rfl)
  have kept : loadOpcode ⟨Opcode.ldc, value, some index.toUInt16⟩ index.toUInt16 = Opcode.ldc :=
    loadOpcode_kept single fun high => UInt16.not_lt.mpr (toUInt16_low index) high.2
  have ran := Pool.loadableIndex_reuses loaded
  refine restores_fixed (run_bind_iff.mpr ⟨_, pool, ran, ?_⟩)
  rw [loadBytes, kept, if_pos rfl, UInt8.toUInt8_toUInt16]
  rfl

theorem restores_symbol {opcode : UInt8} (shape : Opcode.layout opcode = .poolIndex extra.length)
    (symbol : Symbol pool opcode index extra instruction)
    (plain : instruction.Plain (opcode :: (Bytes.u16 index ++ extra) ++ rest) offset) :
    Restores pool offsets offset (opcode :: (Bytes.u16 index ++ extra)) instruction := by
  obtain ⟨form, formed, ran⟩ := symbol.resolves
  cases symbol with
  | field family =>
    rw [Opcode.layout_of_field family] at shape
    obtain rfl : extra = [] := List.eq_nil_of_length_eq_zero (by injection shape.symm)
    cases formed
    rw [List.append_nil]
    exact restores_fixed ran
  | @method kind owner name descriptor family found callable =>
    have suffix : callSuffix ⟨opcode, owner, name, descriptor, decide (kind = .interfaceMethod),
        some index, if opcode = Opcode.invokeInterface then extra.head? else none⟩ = extra := by
      rw [Opcode.layout_of_invocation family] at shape
      by_cases interface : opcode = Opcode.invokeInterface
      · rw [if_pos interface] at shape
        obtain ⟨count, last, rfl⟩ : ∃ count last, extra = [count, last] :=
          List.length_eq_two.mp (by injection shape.symm)
        have zero := plain.called interface
        rw [callSuffix, if_pos interface, if_pos interface]
        simp only [Bytes.u16, Bytes.ofNat, List.cons_append, List.nil_append,
          List.getElem?_cons_succ, List.getElem?_cons_zero, Option.some.injEq] at zero
        rw [zero]
        rfl
      · rw [if_neg interface] at shape
        obtain rfl : extra = [] := List.eq_nil_of_length_eq_zero (by injection shape.symm)
        rw [callSuffix, if_neg interface]
    cases formed
    rw [suffix] at ran
    exact restores_fixed ran
  | @load value family loaded handled =>
    rw [Opcode.layout_of_wideLoad family] at shape
    obtain rfl : extra = [] := List.eq_nil_of_length_eq_zero (by injection shape.symm)
    have other := Opcode.ne_ldc_of_wideLoad family
    have kept : loadOpcode ⟨opcode, value, some index⟩ index = opcode := by
      cases width : value.isWide with
      | true =>
        rcases Opcode.wideLoad_cases family with rfl | rfl
        · have single : value.isWide = false := plain.loaded _ rfl (.inr rfl)
          rw [single] at width
          cases width
        · exact loadOpcode_wide width index
      | false => exact loadOpcode_kept width fun narrow => other narrow.1
    cases formed
    rw [loadBytes, kept, if_neg other] at ran
    rw [List.append_nil]
    exact restores_fixed ran

theorem zeros_of_padded {opcode : UInt8} {padded tail rest : Bytes}
    (skipped : padded.length = padding (offset + 1))
    (zero : ∀ index < padding (offset + 1),
      (opcode :: (padded ++ tail) ++ rest)[1 + index]? = some 0) :
    padded = List.replicate (padding (offset + 1)) 0 := by
  refine List.ext_getElem? fun index => ?_
  rw [← skipped] at zero ⊢
  rcases Nat.lt_or_ge index padded.length with inside | outside
  · have byte := zero index inside
    rw [Nat.add_comm, List.cons_append, List.getElem?_cons_succ, List.append_assoc,
      List.getElem?_append_left inside] at byte
    rw [byte, List.getElem?_replicate, if_pos inside]
  · rw [List.getElem?_eq_none outside, List.getElem?_eq_none (by simpa using outside)]

theorem Spells.restores (spelled : Spells pool offset piece (final.mapTargets (place offsets)))
    (plain : final.Plain (piece ++ rest) offset)
    (inside : ∀ target ∈ final.targets, target + 1 < offsets.size) :
    Restores pool offsets offset piece final := by
  generalize same : final.mapTargets (place offsets) = raw at spelled
  cases spelled with
  | plain assigned shape =>
    obtain rfl := eq_of_mapTargets same rfl
    exact restores_fixed rfl
  | fixed shape =>
    obtain rfl := eq_of_mapTargets same rfl
    exact restores_fixed rfl
  | narrowLoad loaded =>
    obtain rfl := eq_of_mapTargets same rfl
    exact restores_narrowLoad loaded plain
  | @symbol opcode index extra _ shape read =>
    have symbol := symbolic?_ok_iff.mp read
    have still : raw.targets = [] := by cases symbol <;> rfl
    obtain rfl := eq_of_mapTargets same still
    exact restores_symbol shape symbol plain
  | reference shape unread =>
    obtain rfl := eq_of_mapTargets same rfl
    exact restores_fixed rfl
  | @branch16 opcode target shape near =>
    cases final with
    | branch given position =>
      cases same
      have narrow := (Opcode.isWideJump_eq opcode).1 shape
      refine ⟨.jump opcode position, rfl, ⟨inside, ?_⟩, by simp [Form.spelled, narrow]⟩
      intro _ _ jump _
      cases jump
      exact near
    | _ => cases same
  | @branch32 opcode target shape near =>
    cases final with
    | branch given position =>
      cases same
      have wide := (Opcode.isWideJump_eq opcode).2 shape
      refine ⟨.jump opcode position, rfl, ⟨inside, ?_⟩, by simp [Form.spelled, wide]⟩
      intro _ _ jump narrow
      cases jump
      rw [wide] at narrow
      cases narrow
    | _ => cases same
  | tableSwitch skipped ordered counted first others =>
    cases final with
    | tableSwitch position _ _ positions =>
      cases same
      obtain rfl := zeros_of_padded skipped fun index within => plain.padded (.inl rfl) index within
      refine ⟨.tableSwitch position _ _ positions, rfl, ⟨inside, by simp⟩, ?_⟩
      rw [Form.spelled, List.flatMap_map]
    | _ => cases same
  | lookupSwitch skipped counted first others =>
    cases final with
    | lookupSwitch position positions =>
      cases same
      obtain rfl := zeros_of_padded skipped fun index within => plain.padded (.inr rfl) index within
      refine ⟨.lookupSwitch position positions, rfl, ⟨inside, by simp⟩, ?_⟩
      rw [Form.spelled, List.flatMap_map, List.length_map]
    | _ => cases same
  | wide modifiable =>
    obtain rfl := eq_of_mapTargets same rfl
    exact restores_fixed rfl

-- Piece by piece the walk through the code is the layout of the forms.
theorem Walk.restores (walk : Walk pool offset code starts raws)
    (same : raws = finals.map (·.mapTargets (place offsets)))
    (plain : ∀ (position start : Nat) final, starts[position]? = some start →
      finals[position]? = some final → final.Plain (code.drop (start - offset)) start)
    (inside : ∀ final ∈ finals, ∀ target ∈ final.targets, target + 1 < offsets.size) :
    ∃ forms, List.Forall₂ (fun final form => resolve final pool = .ok form pool) finals forms ∧
      Emitted offsets offset forms code starts := by
  induction walk generalizing finals with
  | done =>
    obtain rfl := List.map_eq_nil_iff.mp same.symm
    exact ⟨[], .nil, .done⟩
  | @step offset piece raw code starts raws spelled tail ih =>
    cases finals with
    | nil => cases same
    | cons final finals =>
      rw [List.map_cons, List.cons.injEq] at same
      obtain ⟨rfl, others⟩ := same
      obtain ⟨aimed, remaining⟩ := List.forall_mem_cons.mp inside
      have here := plain 0 offset final rfl rfl
      rw [Nat.sub_self, List.drop_zero] at here
      obtain ⟨form, resolved, reaches, rfl⟩ := spelled.restores here aimed
      rw [Form.length_spelled] at tail ih
      obtain ⟨forms, all, emitted⟩ := ih others (by
        intro position start later begun present
        have behind := plain (position + 1) start later begun present
        have after := (tail.inside start (List.mem_of_getElem? begun)).1
        rw [List.drop_append, List.drop_eq_nil_of_le (by rw [Form.length_spelled]; omega),
          List.nil_append, Form.length_spelled, Nat.sub_sub] at behind
        exact behind) remaining
      exact ⟨form :: forms, .cons resolved all, .step reaches emitted⟩

def Plain (code : Bytes) (body : DecodedBody) : Prop :=
  ∀ (position start : Nat) instruction, body.offsets[position]? = some start →
    body.instructions[position]? = some instruction → instruction.Plain (code.drop start) start

theorem encode_plain (decoded : decode pool code = .ok body) (plain : Plain code body)
    (short : code.length ≤ maxLength) :
    encode body.instructions pool = .ok ⟨code, body.offsets⟩ pool := by
  obtain ⟨starts, offsets, walk, inside⟩ := decode_ok_iff.mp decoded
  have placed : ∀ (position start : Nat), starts[position]? = some start →
      body.offsets[position]? = some start := fun _ _ present =>
    offsets ▸ getElem?_starts present _
  obtain ⟨forms, resolved, emitted⟩ := walk.restores rfl
    (fun position start final begun present => plain position start final (placed _ _ begun) present)
    (fun final member target aimed => by
      have within := inside final member target aimed
      rw [offsets, Array.size_push, List.size_toArray]
      omega)
  have laidOut : LaidOut forms ⟨code, body.offsets⟩ starts := ⟨emitted, offsets, short⟩
  exact encode_ok_iff.mpr ⟨forms, mapM_still resolved, encodeForms_of_laidOut laidOut⟩

end Body
end ClassRename
