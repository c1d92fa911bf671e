import ClassRename.Proofs.Body.Operands

namespace ClassRename
open Effects

namespace Body

-- What an instruction is when its index is not followed.
def unfollowed (opcode : UInt8) (index : UInt16) (operands : Bytes) : Instruction :=
  if opcode = Opcode.ldc then .load ⟨opcode, .other index, some index⟩ else .other opcode operands

inductive Fades (earlier later : Pool) (bytes : Bytes) (before : Instruction) : Instruction → Prop where
  | same : Fades earlier later bytes before before
  | unfollowed (given : bytes = opcode :: operands) (named : operand? bytes = some index)
      (touched : Pool.Touched earlier later index) (formed : after = unfollowed opcode index operands)
      (nameless : after.referencedClass? = none) : Fades earlier later bytes before after

theorem unfollowed_targets (opcode : UInt8) (index : UInt16) (operands : Bytes) :
    (unfollowed opcode index operands).targets = [] := by
  unfold unfollowed
  split <;> rfl

theorem unfollowed_nameless (opcode : UInt8) (index : UInt16) (operands : Bytes) :
    (unfollowed opcode index operands).referencedClass? = none := by
  unfold unfollowed
  split <;> rfl

theorem unfollowed_reference {opcode : UInt8} {size : Nat}
    (shape : Opcode.layout opcode = .poolIndex size) (index : UInt16) (operands : Bytes) :
    unfollowed opcode index operands = .other opcode operands := by
  refine if_neg fun narrow => ?_
  subst narrow
  cases shape

section Pools
variable {earlier later : Pool} (obscures : Pool.Obscures earlier later)
include obscures

theorem Symbol.obscured (symbol : Symbol earlier opcode index extra instruction) :
    Symbol later opcode index extra instruction ∨
      later.reachesOpaqueText index = true ∧ Pool.Touched earlier later index := by
  cases symbol with
  | field family found =>
    exact (Pool.memberRef_obscured obscures found).imp_left fun same => .field family same
  | method family found callable =>
    exact (Pool.memberRef_obscured obscures found).imp_left fun same => .method family same callable
  | load family loaded handled =>
    rcases Pool.loadable_obscured obscures loaded with same | ⟨_, hidden⟩
    · refine .inl (.load family same fun given other => ?_)
      obtain ⟨constant, found, handle⟩ := handled given other
      refine ⟨constant, Pool.get_obscured obscures found ?_, handle⟩
      rintro stored rfl
      cases handle
    · exact .inr hidden

theorem Spells.obscured (spelled : Spells earlier offset bytes raw) :
    Spells later offset bytes raw ∨ ∃ opcode index operands, bytes = opcode :: operands ∧
      operand? bytes = some index ∧ Pool.Touched earlier later index ∧
      Spells later offset bytes (unfollowed opcode index operands) := by
  cases spelled with
  | plain assigned shape => exact .inl (.plain assigned shape)
  | fixed shape => exact .inl (.fixed shape)
  | @narrowLoad value index loaded =>
    rcases Pool.loadable_obscured obscures loaded with same | ⟨other, _, touched⟩
    · exact .inl (.narrowLoad same)
    · exact .inr ⟨Opcode.ldc, index.toUInt16, [index], rfl, rfl, touched, .narrowLoad other⟩
  | @symbol opcode index extra _ shape read =>
    rcases (symbolic?_ok_iff.mp read).obscured obscures with same | ⟨hidden, touched⟩
    · exact .inl (.symbol shape (symbolic?_ok_iff.mpr same))
    · refine .inr ⟨opcode, index, _, rfl, operand?_reference shape index extra, touched, ?_⟩
      rw [unfollowed_reference shape]
      exact .reference shape (symbolic?_none_iff.mpr (.inl hidden))
  | reference shape unread =>
    refine .inl (.reference shape (symbolic?_none_iff.mpr ?_))
    exact (symbolic?_none_iff.mp unread).imp_left (Pool.reachesOpaqueText_obscured obscures)
  | branch16 shape near => exact .inl (.branch16 shape near)
  | branch32 shape near => exact .inl (.branch32 shape near)
  | tableSwitch skipped ordered counted first others =>
    exact .inl (.tableSwitch skipped ordered counted first others)
  | lookupSwitch skipped counted first others =>
    exact .inl (.lookupSwitch skipped counted first others)
  | wide modifiable => exact .inl (.wide modifiable)

theorem Spells.fades {final : Instruction} {place : Nat → Nat}
    (spelled : Spells earlier offset bytes (final.mapTargets place)) :
    ∃ other : Instruction, Spells later offset bytes (other.mapTargets place) ∧
      Fades earlier later bytes final other ∧
      ∀ target ∈ other.targets, target ∈ final.targets := by
  rcases spelled.obscured obscures with same | ⟨opcode, index, operands, given, named, touched, again⟩
  · exact ⟨final, same, .same, fun _ aimed => aimed⟩
  · have still := unfollowed_targets opcode index operands
    refine ⟨unfollowed opcode index operands, ?_, .unfollowed given named touched rfl
      (unfollowed_nameless ..), ?_⟩
    · rwa [Instruction.mapTargets_of_none still]
    · rw [still]
      exact fun _ aimed => absurd aimed List.not_mem_nil

theorem Walk.fades {place : Nat → Nat} {finals : List Instruction}
    (walk : Walk earlier offset code starts raws) (same : raws = finals.map (·.mapTargets place)) :
    ∃ others : List Instruction, Walk later offset code starts (others.map (·.mapTargets place)) ∧
      Tiled (fun offset bytes pair => Spells earlier offset bytes (pair.1.mapTargets place) ∧
        Fades earlier later bytes pair.1 pair.2) offset code starts (finals.zip others) ∧
      List.Forall₂ (fun final other : Instruction => ∀ target ∈ other.targets, target ∈ final.targets)
        finals others := by
  induction walk generalizing finals with
  | done =>
    obtain rfl := List.map_eq_nil_iff.mp same.symm
    exact ⟨[], .done, .done, .nil⟩
  | step spelled _ ih =>
    cases finals with
    | nil => cases same
    | cons final finals =>
      rw [List.map_cons, List.cons.injEq] at same
      obtain ⟨rfl, behind⟩ := same
      obtain ⟨other, again, fades, aimed⟩ := spelled.fades obscures
      obtain ⟨others, walk, tiled, all⟩ := ih behind
      exact ⟨other :: others, .step again walk, .step ⟨spelled, fades⟩ tiled, .cons aimed all⟩

-- No body becomes invalid because a text is lost: it has the same instructions at the same offsets,
-- but for those that stood for something by way of the text.
theorem decode_obscured (decoded : decode earlier code = .ok body) :
    ∃ other, decode later code = .ok other ∧ other.offsets = body.offsets ∧
      other.instructions.length = body.instructions.length ∧
      Cuts (fun _ bytes pair => Fades earlier later bytes pair.1 pair.2) body.offsets code
        (body.instructions.zip other.instructions) := by
  obtain ⟨starts, offsets, walk, inside⟩ := decode_ok_iff.mp decoded
  obtain ⟨others, again, tiled, aimed⟩ := walk.fades obscures rfl
  have cuts := (tiled.cuts fun piece => piece.1.nonempty).imp fun _ _ _ piece => piece.2
  rw [← offsets] at cuts
  refine ⟨⟨others, body.offsets⟩, decode_ok_iff.mpr ⟨starts, offsets, again, ?_⟩, rfl,
    aimed.length_eq.symm, cuts⟩
  intro other member target listed
  obtain ⟨final, present, within⟩ := forall₂_partner aimed member
  exact inside final present target (within target listed)

end Pools

theorem named_obscures (readable : EncodedText.text? ⟨clear⟩ = some text)
    (unreadable : EncodedText.text? ⟨dim⟩ = none) :
    Pool.Obscures (.named clear) (.named dim) := by
  intro index constant present
  generalize position : index.toNat = slot at present ⊢
  match slot, present with
  | 0, present | 2, present => exact .inl present
  | 1, _ =>
    refine .inr ⟨⟨⟨clear⟩, text, ?_, readable⟩, ⟨dim⟩, ?_, unreadable⟩ <;> rw [position] <;> rfl

def loadingCode : Bytes := [0x12, 2, 0x13, 0, 2, 0xB1]

def loadingBody : DecodedBody :=
  ⟨[.load ⟨0x12, .type "A", some 2⟩, .load ⟨0x13, .type "A", some 2⟩, .other 0xB1 []],
    #[0, 2, 5, 6]⟩

theorem loadingCode_fades :
    Pool.Obscures (.named [0x41]) (.named [0xED, 0xA0, 0x80]) ∧
    decode (.named [0x41]) loadingCode = .ok loadingBody ∧
    ∃ other, decode (.named [0xED, 0xA0, 0x80]) loadingCode = .ok other ∧
      other = ⟨[.load ⟨0x12, .other 2, some 2⟩, .other 0x13 [0, 2], .other 0xB1 []],
        loadingBody.offsets⟩ ∧
      Cuts (fun _ bytes pair => Fades (.named [0x41]) (.named [0xED, 0xA0, 0x80]) bytes pair.1 pair.2)
        loadingBody.offsets loadingCode (loadingBody.instructions.zip other.instructions) := by
  have readable : EncodedText.text? ⟨[0x41]⟩ = some "A" := by decide +kernel
  have obscures : Pool.Obscures (.named [0x41]) (.named [0xED, 0xA0, 0x80]) :=
    named_obscures readable (by decide +kernel)
  have decoded : decode (.named [0x41]) loadingCode = .ok loadingBody := by decide +kernel
  have faded : decode (.named [0xED, 0xA0, 0x80]) loadingCode =
      .ok ⟨[.load ⟨0x12, .other 2, some 2⟩, .other 0x13 [0, 2], .other 0xB1 []],
        loadingBody.offsets⟩ := by decide +kernel
  obtain ⟨other, again, _, _, cuts⟩ := decode_obscured obscures decoded
  exact ⟨obscures, decoded, other, again, Except.ok.inj (again.symm.trans faded), cuts⟩

end Body
end ClassRename
