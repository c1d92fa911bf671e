import ClassRename.Proofs.Body.Resolving
import ClassRename.Proofs.Pool.Requests

namespace ClassRename
open Effects

namespace Body
open Instruction

theorem fits32_distance (here : offset ≤ maxLength) (there : target ≤ maxLength) :
    Fits32 (distance offset target) := by
  unfold maxLength at here there
  unfold Fits32 distance
  omega

theorem Form.Reads.spells (reads : Form.Reads pool form final) (reaches : form.Reaches offsets offset)
    (short : offset + form.size offset ≤ maxLength)
    (bounded : ∀ position, place offsets position ≤ maxLength) :
    Spells pool offset (form.spelled offsets offset) (final.mapTargets (place offsets)) := by
  have here : offset ≤ maxLength := Nat.le_trans (Nat.le_add_right _ _) short
  have near : ∀ position, Fits32 (distance offset (place offsets position)) := fun position =>
    fits32_distance here (bounded position)
  cases reads with
  | fixed spelled still =>
    rw [mapTargets_of_none still]
    exact spelled offset
  | @jump target opcode shape =>
    rcases shape with shape | shape
    · have narrow := (Opcode.isWideJump_eq opcode).1 shape
      simp only [Form.spelled, narrow]
      exact .branch16 shape (reaches.near opcode target rfl narrow)
    · simp only [Form.spelled, (Opcode.isWideJump_eq opcode).2 shape]
      exact .branch32 shape (near target)
  | @tableSwitch low high default targets ordered counted =>
    have listed : (targets.flatMap fun target => word (distance offset (place offsets target))) =
        (targets.map (place offsets)).flatMap fun target => word (distance offset target) := by
      rw [List.flatMap_map]
    simp only [Form.spelled, listed]
    refine .tableSwitch (List.length_replicate ..) ordered ?_ (near default) ?_
    · rwa [List.length_map]
    · intro target member
      obtain ⟨position, _, rfl⟩ := List.mem_map.mp member
      exact near position
  | @lookupSwitch pairs default =>
    have listed : (pairs.flatMap fun pair => pairBytes offset (pair.1, place offsets pair.2)) =
        (pairs.map fun pair => (pair.1, place offsets pair.2)).flatMap (pairBytes offset) := by
      rw [List.flatMap_map]
    have few : pairs.length < 2 ^ 31 := by
      simp only [Form.size, maxLength] at short
      omega
    have sized : (pairs.map fun pair => (pair.1, place offsets pair.2)).length = pairs.length :=
      List.length_map ..
    simp only [Form.spelled, listed]
    rw [← sized]
    refine .lookupSwitch (List.length_replicate ..) (by rwa [sized]) (near default) ?_
    intro pair member
    obtain ⟨given, _, rfl⟩ := List.mem_map.mp member
    exact near given.2

theorem Emitted.walk (emitted : Emitted offsets offset forms code starts)
    (reads : List.Forall₂ (Form.Reads pool) forms finals) (short : offset + code.length ≤ maxLength)
    (bounded : ∀ position, place offsets position ≤ maxLength) :
    Walk pool offset code starts (finals.map (·.mapTargets (place offsets))) := by
  induction emitted generalizing finals with
  | done =>
    cases reads
    exact .done
  | @step offset form forms code starts reaches tail ih =>
    rw [List.length_append, Form.length_spelled, ← Nat.add_assoc] at short
    cases reads with
    | cons first others =>
      have spelled := first.spells reaches (by omega) bounded
      refine .step spelled ?_
      rw [Form.length_spelled]
      exact ih others short

theorem Emitted.inside (emitted : Emitted offsets offset forms code starts) :
    starts.length = forms.length ∧ (∀ start ∈ starts, start ≤ offset + code.length) ∧
      ∀ form ∈ forms, ∀ target ∈ form.targets, target + 1 < offsets.size := by
  induction emitted with
  | done => simp
  | @step offset form forms code starts reaches _ ih =>
    obtain ⟨counted, bounds, targets⟩ := ih
    refine ⟨by simp [counted], ?_, List.forall_mem_cons.mpr ⟨reaches.inside, targets⟩⟩
    rw [List.length_append, Form.length_spelled, ← Nat.add_assoc]
    refine List.forall_mem_cons.mpr ⟨by omega, fun start member => ?_⟩
    exact bounds start member

theorem Form.Reads.targets_eq (reads : Form.Reads pool form final) : form.targets = final.targets := by
  cases reads with
  | fixed _ still => exact still.symm
  | jump => rfl
  | tableSwitch => rfl
  | lookupSwitch => rfl

theorem Form.Reads.aims (reads : List.Forall₂ (Form.Reads pool) forms finals) :
    forms.map Form.targets = finals.map Instruction.targets := by
  induction reads with
  | nil => rfl
  | cons first _ ih => rw [List.map_cons, List.map_cons, first.targets_eq, ih]

theorem LaidOut.bounded (laidOut : LaidOut forms body starts) (position : Nat) :
    place body.offsets position ≤ maxLength := by
  obtain ⟨emitted, offsets, short⟩ := laidOut
  obtain ⟨_, bounds, _⟩ := emitted.inside
  rw [place, Array.getD_eq_getD_getElem?]
  cases present : body.offsets[position]? with
  | none => exact Nat.zero_le _
  | some entry =>
    rw [offsets, ← Array.getElem?_toList, Array.toList_push] at present
    have member := List.mem_of_getElem? present
    rcases List.mem_append.mp member with early | last
    · have bound := bounds entry early
      rw [Option.getD_some]
      omega
    · rw [Option.getD_some, List.mem_singleton.mp last]
      exact short

theorem LaidOut.decodes (laidOut : LaidOut forms body starts)
    (reads : List.Forall₂ (Form.Reads pool) forms finals) :
    Decodes pool body.code ⟨finals, body.offsets⟩ starts := by
  have bounded := laidOut.bounded
  obtain ⟨emitted, offsets, short⟩ := laidOut
  refine ⟨offsets, emitted.walk reads (by omega) bounded, ?_⟩
  intro final member target aimed
  obtain ⟨_, _, inside⟩ := emitted.inside
  have listed : final.targets ∈ finals.map Instruction.targets := List.mem_map_of_mem member
  rw [← Form.Reads.aims reads] at listed
  obtain ⟨form, present, same⟩ := List.mem_map.mp listed
  have bound := inside form present target (same ▸ aimed)
  rw [offsets, Array.size_push, List.size_toArray] at bound
  exact Nat.lt_of_succ_lt_succ bound

theorem encode_ok_iff : encode instructions pool = .ok body later ↔
    ∃ forms, instructions.mapM resolve pool = .ok forms later ∧ encodeForms forms = .ok body := by
  rw [encode, run_bind_iff]
  constructor
  · intro stated
    rcases stated with ⟨forms, middle, resolved, ran⟩
    cases written : encodeForms forms with
    | error error =>
      rw [written] at ran
      cases ran
    | ok given =>
      rw [written] at ran
      obtain ⟨rfl, rfl⟩ := run_pure_iff.mp ran
      exact ⟨forms, resolved, written⟩
  · intro stated
    rcases stated with ⟨forms, resolved, written⟩
    refine ⟨forms, later, resolved, ?_⟩
    rw [written]
    rfl

theorem resolve_all (sound : Pool.Sound pool)
    (wellFormed : ∀ instruction ∈ instructions, WellFormed pool instruction)
    (ran : instructions.mapM resolve pool = .ok forms later) :
    Pool.Grown pool later ∧ List.Forall₂
      (fun instruction form => ∃ final, Settled later instruction form final) instructions forms := by
  have run := mapM_run Pool.Sound Pool.Grown (fun instruction pool => WellFormed pool instruction)
    (fun instruction form pool => ∃ final, Settled pool instruction form final)
    (fun _ => .refl) (fun _ _ _ => Pool.Grown.trans)
    (fun _ _ _ ready grown => ready.extends grown.extends)
    (fun _ _ _ _ ⟨final, settled⟩ grown => ⟨final, settled.extends grown.extends⟩)
    (fun _ _ _ _ sound ready ran => by
      obtain ⟨grown, settled⟩ := resolve_sound sound ready ran
      exact ⟨grown.sound sound, grown, settled⟩)
    sound wellFormed ran
  exact run.2

-- A body as it was written: it is read as the same instructions, which are written as this body
-- again in every pool that grows out of this one.
structure Rewritten (pool : Pool) (instructions : List Instruction) (body : EncodedBody)
    (finals : List Instruction) : Prop where
  decoded : decode pool body.code = .ok ⟨finals, body.offsets⟩
  respelled : List.Forall₂ (fun instruction final => Respelled instruction.counted final)
    instructions finals
  again : ∀ later, Pool.Extends pool later → encode finals later = .ok body later
  short : body.code.length ≤ maxLength

theorem Rewritten.nonempty (rewritten : Rewritten pool instructions body finals)
    (some : instructions ≠ []) : body.code.length ≠ 0 := by
  intro empty
  have respelled := rewritten.respelled
  have none := (decode_nil_iff rewritten.decoded).mp (List.eq_nil_of_length_eq_zero empty)
  rw [show finals = [] from none, List.forall₂_nil_right_iff] at respelled
  exact some respelled

theorem encode_sound (sound : Pool.Sound pool)
    (wellFormed : ∀ instruction ∈ instructions, WellFormed pool instruction)
    (ran : encode instructions pool = .ok body later) :
    Pool.Grown pool later ∧ ∃ finals, Rewritten later instructions body finals := by
  obtain ⟨forms, resolved, written⟩ := encode_ok_iff.mp ran
  obtain ⟨grown, settled⟩ := resolve_all sound wellFormed resolved
  obtain ⟨wider, starts, widened, laidOut⟩ := encodeForms_sound written
  have all : List.Forall₂ (fun instruction form => ∃ final, Respelled instruction.counted final ∧
      (Form.Reads later form final ∧ ∀ last, Pool.Extends later last →
        resolve final last = .ok form last)) instructions wider :=
    forall₂_trans (fun _ _ _ ⟨_, settled⟩ widened => by
      obtain ⟨final, reads, respelled, again⟩ := settled.widened widened
      exact ⟨final, respelled, reads, again⟩) settled widened
  obtain ⟨finals, respelled, forms⟩ := forall₂_choose all
  refine ⟨grown, finals, ?_, respelled, fun last extended => ?_, laidOut.short⟩
  · exact decode_ok_iff.mpr ⟨starts, laidOut.decodes (forms.imp fun _ _ form => form.1)⟩
  · refine encode_ok_iff.mpr ⟨wider, mapM_still ?_, encodeForms_of_laidOut laidOut⟩
    exact (forms.imp fun _ _ form => form.2 last extended).flip

-- Decoding undoes encoding, whatever the pool went through before and whatever the instructions
-- were read from.
theorem decode_of_encode (reachable : Pool.Reachable pool)
    (wellFormed : ∀ instruction ∈ instructions, WellFormed pool instruction)
    (written : encode instructions pool = .ok body later) :
    ∃ decoded, decode later body.code = .ok decoded ∧ decoded.offsets = body.offsets ∧
      List.Forall₂ (fun instruction final => Respelled instruction.counted final) instructions
        decoded.instructions := by
  obtain ⟨_, finals, rewritten⟩ := encode_sound reachable.sound wellFormed written
  exact ⟨_, rewritten.decoded, rfl, rewritten.respelled⟩

def steppingLoop : List Instruction :=
  [.load ⟨Opcode.ldc, .integer 5, some 7⟩, .tableSwitch 3 1 2 [0, 2], .branch Opcode.goto 0,
    .other 0xB1 []]

theorem steppingLoop_encodes : encode steppingLoop .empty = .ok
    ⟨[0x12, 1, 0xAA, 0, 0, 0, 0, 25, 0, 0, 0, 1, 0, 0, 0, 2, 255, 255, 255, 254, 0, 0, 0, 22,
      0xA7, 255, 232, 0xB1], #[0, 2, 24, 27, 28]⟩ (Pool.empty.append (.integer 5)) := by
  have stale : (some 7).filter (Pool.empty.loads · (.integer 5)) = (none : Option UInt16) := rfl
  have fresh : Pool.intern (.integer 5) .empty = .ok 1 (Pool.empty.append (.integer 5)) := by
    have unknown : Pool.empty.first[Constant.integer 5]? = none := Std.HashMap.getElem?_empty
    rw [Pool.intern, unknown]
    rfl
  have loaded : Pool.loadableIndex (some 7) (.integer 5) .empty =
      .ok 1 (Pool.empty.append (.integer 5)) := by
    rw [Pool.loadableIndex, stale]
    exact fresh
  have first : resolve (.load ⟨Opcode.ldc, .integer 5, some 7⟩) .empty =
      .ok (.fixed [0x12, 1]) (Pool.empty.append (.integer 5)) :=
    run_bind_iff.mpr ⟨1, _, loaded, rfl⟩
  refine encode_ok_iff.mpr ⟨[.fixed [0x12, 1], .tableSwitch 3 1 2 [0, 2], .jump Opcode.goto 0,
    .fixed [0xB1]], ?_, by decide +kernel⟩
  rw [steppingLoop, List.mapM_cons, bind_apply, first]
  rfl

theorem steppingLoop_decodes :
    ∃ body later, encode steppingLoop .empty = .ok body later ∧
      ∃ decoded, decode later body.code = .ok decoded ∧ decoded.offsets = body.offsets ∧
        List.Forall₂ (fun instruction final => Respelled instruction.counted final) steppingLoop
          decoded.instructions := by
  refine ⟨_, _, steppingLoop_encodes, decode_of_encode .new ?_ steppingLoop_encodes⟩
  intro instruction member
  simp only [steppingLoop, List.mem_cons, List.not_mem_nil, or_false] at member
  rcases member with rfl | rfl | rfl | rfl
  · exact .load (.inl rfl) (by simp)
  · exact .tableSwitch (by decide) (by decide)
  · exact .branch (.inl rfl)
  · exact .plain rfl rfl

end Body
end ClassRename
