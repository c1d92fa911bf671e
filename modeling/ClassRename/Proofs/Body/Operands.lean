import ClassRename.Proofs.Body.Resolving

namespace ClassRename
open Effects

def Body.operand? : Bytes → Option UInt16
  | opcode :: first :: rest =>
    match Opcode.layout opcode, rest with
    | .poolIndexU8, _ => some first.toUInt16
    | .poolIndex _, second :: _ => some (UInt16.ofNat (Bytes.toNat [first, second]))
    | _, _ => none
  | _ => none

def Opcode.isChoosy (opcode : UInt8) : Bool := isSymbolic opcode || opcode == ldc

def Constant.serves (opcode : UInt8) : Constant → Bool
  | .member .field .. => Opcode.isFieldAccess opcode
  | .member .. => Opcode.isInvocation opcode
  | .integer _ | .float _ | .long _ | .double _ | .string _ | .classRef _ | .methodHandle ..
  | .methodType _ | .dynamic .. => opcode == Opcode.ldc || Opcode.isWideLoad opcode
  | _ => false

def Layout.isIndexed : Layout → Bool
  | .poolIndexU8 | .poolIndex _ => true
  | _ => false

theorem Opcode.isSymbolic_iff {opcode : UInt8} : isSymbolic opcode = true ↔
    isFieldAccess opcode = true ∨ isInvocation opcode = true ∨ isWideLoad opcode = true := by
  unfold isSymbolic
  rw [Bool.or_eq_true, Bool.or_eq_true, or_assoc]

theorem Opcode.layout_of_choosy {opcode : UInt8} (choosy : isChoosy opcode = true) :
    (layout opcode).isIndexed = true := by
  rw [isChoosy, Bool.or_eq_true, isSymbolic_iff, beq_iff_eq] at choosy
  rcases choosy with (field | call | load) | rfl
  · rw [layout_of_field field]
    rfl
  · rw [layout_of_invocation call]
    rfl
  · rw [layout_of_wideLoad load]
    rfl
  · rfl

theorem Pool.Loads.serves {pool : Pool} (loads : Pool.Loads pool index value)
    (load : (opcode == Opcode.ldc || Opcode.isWideLoad opcode) = true) :
    ∃ constant, pool.get index = .ok constant ∧ constant.serves opcode = true := by
  cases loads with
  | integer found | float found | long found | double found => exact ⟨_, found, load⟩
  | string found | type found | unreadString found | unreadType found => exact ⟨_, found, load⟩
  | @handle constant found kind =>
    refine ⟨constant, found, ?_⟩
    cases constant <;> first | exact load | cases kind

namespace Body

theorem operand?_reference {opcode : UInt8} {size : Nat}
    (shape : Opcode.layout opcode = .poolIndex size) (index : UInt16) (extra : Bytes) :
    operand? (opcode :: (Bytes.u16 index ++ extra)) = some index := by
  obtain ⟨first, second, spelled⟩ := List.length_eq_two.mp (Bytes.length_u16 index)
  have back := Bytes.u16_toNat index
  rw [spelled] at back ⊢
  simp only [operand?, List.cons_append, List.nil_append, shape, back]

theorem Symbol.serves (symbol : Symbol pool opcode index extra instruction) :
    ∃ constant, pool.get index = .ok constant ∧ constant.serves opcode = true := by
  cases symbol with
  | field family found =>
    obtain ⟨_, _, present, _⟩ := Pool.memberRef_ok_iff.mp found
    exact ⟨_, present, family⟩
  | @method kind _ _ _ family found callable =>
    obtain ⟨_, _, present, _⟩ := Pool.memberRef_ok_iff.mp found
    refine ⟨_, present, ?_⟩
    cases kind with
    | field => exact absurd rfl callable
    | method | interfaceMethod => exact family
  | load family loaded =>
    exact (Pool.loadable_ok_iff.mp loaded).serves (Bool.or_eq_true_iff.mpr (.inr family))

def Apt (pool : Pool) (bytes : Bytes) : Prop :=
  ∀ opcode, bytes.head? = some opcode → Opcode.isChoosy opcode = true →
    ∃ index constant, operand? bytes = some index ∧ pool.get index = .ok constant ∧
      constant.serves opcode = true

-- An instruction with an index of two bytes that is kept as it is, because the index leads through
-- text that cannot be read.
def Unseen (pool : Pool) (bytes : Bytes) (instruction : Instruction) : Prop :=
  ∃ opcode index extra, Opcode.layout opcode = .poolIndex extra.length ∧
    bytes = opcode :: (Bytes.u16 index ++ extra) ∧ pool.reachesOpaqueText index = true ∧
    instruction = .other opcode (Bytes.u16 index ++ extra)

theorem apt_of_layout {opcode : UInt8} (shape : (Opcode.layout opcode).isIndexed = false)
    (rest : Bytes) : Apt pool (opcode :: rest) := by
  intro given opens choosy
  cases opens
  rw [Opcode.layout_of_choosy choosy] at shape
  cases shape

theorem Spells.apt (spelled : Spells pool offset bytes raw) :
    Apt pool bytes ∨ Unseen pool bytes raw := by
  cases spelled with
  | plain assigned shape => exact .inl (apt_of_layout (by rw [shape]; rfl) _)
  | fixed shape => exact .inl (apt_of_layout (by rw [shape]; rfl) _)
  | narrowLoad loaded =>
    refine .inl fun opcode opens choosy => ?_
    cases opens
    have load : (Opcode.ldc == Opcode.ldc || Opcode.isWideLoad Opcode.ldc) = true := rfl
    obtain ⟨constant, found, serves⟩ := (Pool.loadable_ok_iff.mp loaded).serves load
    exact ⟨_, constant, rfl, found, serves⟩
  | @symbol opcode index extra _ shape read =>
    refine .inl fun given opens choosy => ?_
    cases opens
    obtain ⟨constant, found, serves⟩ := (symbolic?_ok_iff.mp read).serves
    exact ⟨index, constant, operand?_reference shape index extra, found, serves⟩
  | @reference opcode index extra shape unread =>
    rcases symbolic?_none_iff.mp unread with reached | other
    · exact .inr ⟨opcode, index, extra, shape, rfl, reached, rfl⟩
    · refine .inl fun given opens choosy => ?_
      cases opens
      rw [Opcode.isChoosy, other, Bool.false_or, beq_iff_eq] at choosy
      subst choosy
      cases shape
  | branch16 shape => exact .inl (apt_of_layout (by rw [shape]; rfl) _)
  | branch32 shape => exact .inl (apt_of_layout (by rw [shape]; rfl) _)
  | tableSwitch => exact .inl (apt_of_layout rfl _)
  | lookupSwitch => exact .inl (apt_of_layout rfl _)
  | wide => exact .inl (apt_of_layout rfl _)

theorem decode_unseen {opcode : UInt8} (shape : Opcode.layout opcode = .poolIndex extra.length)
    (reached : pool.reachesOpaqueText index = true) :
    decode pool (opcode :: (Bytes.u16 index ++ extra)) =
      .ok ⟨[.other opcode (Bytes.u16 index ++ extra)], #[0, 3 + extra.length]⟩ := by
  have spelled : Spells pool 0 (opcode :: (Bytes.u16 index ++ extra)) _ :=
    .reference shape (symbolic?_none_iff.mpr (.inl reached))
  have walk := Walk.step spelled .done
  rw [List.append_nil] at walk
  refine decode_ok_iff.mpr ⟨[0], ⟨?_, walk, ?_⟩⟩
  · have size : (opcode :: (Bytes.u16 index ++ extra)).length = 3 + extra.length := by
      rw [List.length_cons, List.length_append, Bytes.length_u16]
      omega
    rw [size]
    rfl
  · intro instruction member target aimed
    cases List.mem_singleton.mp member
    cases aimed

-- Every accepted instruction names a constant that it works on, or its index leads through text
-- that cannot be read; and then any constant will do.
theorem decode_operands (pool : Pool) :
    (∀ code body, decode pool code = .ok body →
      Cuts (fun _ bytes instruction => Apt pool bytes ∨ Unseen pool bytes instruction)
        body.offsets code body.instructions) ∧
      ∀ opcode index extra, Opcode.layout opcode = .poolIndex extra.length →
        pool.reachesOpaqueText index = true →
          decode pool (opcode :: (Bytes.u16 index ++ extra)) =
            .ok ⟨[.other opcode (Bytes.u16 index ++ extra)], #[0, 3 + extra.length]⟩ := by
  refine ⟨?_, fun opcode index extra shape reached => decode_unseen shape reached⟩
  intro code body decoded
  obtain ⟨starts, decodes⟩ := decode_ok_iff.mp decoded
  refine decodes.cut fun start bytes instruction _ spelled => ?_
  rcases spelled.apt with apt | unseen
  · exact .inl apt
  · obtain ⟨opcode, index, extra, shape, same, reached, kept⟩ := unseen
    exact .inr ⟨opcode, index, extra, shape, same, reached, Instruction.eq_of_mapTargets kept rfl⟩

theorem unfit_accepted {opcode : UInt8} (shape : Opcode.layout opcode = .poolIndex extra.length)
    (choosy : Opcode.isChoosy opcode = true) (reached : pool.reachesOpaqueText index = true)
    (found : pool.get index = .ok constant) (unfit : constant.serves opcode = false) :
    ∃ body, decode pool (opcode :: (Bytes.u16 index ++ extra)) = .ok body ∧
      ¬ Cuts (fun _ bytes _ => Apt pool bytes) body.offsets
        (opcode :: (Bytes.u16 index ++ extra)) body.instructions := by
  refine ⟨_, decode_unseen shape reached, fun cuts => ?_⟩
  have apt := cuts.pieces 0 0 (3 + extra.length) _ rfl rfl rfl
  have whole : (opcode :: (Bytes.u16 index ++ extra)).length ≤ 3 + extra.length := by
    rw [List.length_cons, List.length_append, Bytes.length_u16]
    omega
  rw [List.drop_zero, Nat.sub_zero, List.take_of_length_le whole] at apt
  obtain ⟨given, held, named, present, serves⟩ := apt opcode rfl choosy
  rw [operand?_reference shape] at named
  cases named
  rw [found] at present
  cases present
  rw [unfit] at serves
  cases serves

def strayPool : Pool :=
  ((((Pool.named [0xED, 0xA0, 0x80]).append (.utf8 ⟨[0x6D]⟩)).append
    (.utf8 ⟨[0x28, 0x29, 0x56]⟩)).append (.nameAndType 3 4)).append (.member .method 2 5)

theorem strayPool_accepts :
    (∃ body, decode strayPool [0xB4, 0, 6] = .ok body ∧
      ¬ Cuts (fun _ bytes _ => Apt strayPool bytes) body.offsets [0xB4, 0, 6] body.instructions) ∧
    (∃ body, decode strayPool [0xB8, 0, 2] = .ok body ∧
      ¬ Cuts (fun _ bytes _ => Apt strayPool bytes) body.offsets [0xB8, 0, 2] body.instructions) ∧
    (∃ body, decode strayPool [0x13, 0, 1] = .ok body ∧
      ¬ Cuts (fun _ bytes _ => Apt strayPool bytes) body.offsets [0x13, 0, 1] body.instructions) ∧
    ∃ error, decode strayPool [0x12, 1] = .error error := by
  have method : strayPool.reachesOpaqueText 6 = true := by decide +kernel
  have owner : strayPool.reachesOpaqueText 2 = true := by decide +kernel
  have name : strayPool.reachesOpaqueText 1 = true := by decide +kernel
  refine ⟨?_, ?_, ?_, ?_⟩
  · exact unfit_accepted rfl rfl method rfl rfl
  · exact unfit_accepted rfl rfl owner rfl rfl
  · exact unfit_accepted rfl rfl name rfl rfl
  · exact ⟨_, rfl⟩

theorem strayPool_operands :
    ∃ body, decode strayPool [0xB7, 0, 6] = .ok body ∧ body.offsets = #[0, 3] ∧
      Cuts (fun _ bytes instruction => Apt strayPool bytes ∨ Unseen strayPool bytes instruction)
        body.offsets [0xB7, 0, 6] body.instructions := by
  obtain ⟨checked, accepted⟩ := decode_operands strayPool
  have decoded := accepted 0xB7 6 [] rfl (by decide +kernel)
  exact ⟨_, decoded, rfl, checked _ _ decoded⟩

end Body
end ClassRename
