import ClassRename.Proofs.Body.Decoding

namespace ClassRename
open Effects

theorem Opcode.narrow_cases {opcode : UInt8} (narrow : isNarrowJump opcode = true) :
    opcode = goto ∨ opcode = jsr := by
  simpa [isNarrowJump] using narrow

namespace Body

theorem distance?_iff {offsets : Offsets} {position offset target : Nat} {found : Int}
    (here : offsets[position]? = some offset) :
    offsets.distance? position target = some found ↔
      target + 1 < offsets.size ∧ found = distance offset (place offsets target) := by
  rw [Offsets.distance?_eq_some_iff]
  constructor
  · intro stated
    rcases stated with ⟨inside, _, there, same, present, rfl⟩
    obtain rfl := Option.some.inj (here.symm.trans same)
    exact ⟨inside, by simp [distance, place, present]⟩
  · intro stated
    rcases stated with ⟨inside, rfl⟩
    refine ⟨inside, offset, _, here, Array.getElem?_eq_getElem (by omega), ?_⟩
    rw [distance, place, Array.getD_eq_getD_getElem?, Array.getElem?_eq_getElem (by omega),
      Option.getD_some]

theorem relative_ok_iff {offsets : Offsets} {position offset target : Nat} {found : Int}
    (here : offsets[position]? = some offset) :
    relative offsets position target = .ok found ↔
      target + 1 < offsets.size ∧ found = distance offset (place offsets target) := by
  rw [← distance?_iff here]
  unfold relative
  cases offsets.distance? position target <;> simp

namespace Form

def spelled (offsets : Offsets) (offset : Nat) : Form → Bytes
  | .fixed bytes => bytes
  | .jump opcode target =>
    let distance := distance offset (place offsets target)
    opcode :: if Opcode.isWideJump opcode then word distance else Bytes.i16 (Int16.ofInt distance)
  | .tableSwitch default low high targets =>
    Opcode.tableSwitch :: (List.replicate (padding (offset + 1)) 0 ++
      (word (distance offset (place offsets default)) ++ (Bytes.i32 low ++ (Bytes.i32 high ++
        targets.flatMap fun target => word (distance offset (place offsets target))))))
  | .lookupSwitch default pairs =>
    Opcode.lookupSwitch :: (List.replicate (padding (offset + 1)) 0 ++
      (word (distance offset (place offsets default)) ++ (word (pairs.length : Int) ++
        pairs.flatMap fun pair => pairBytes offset (pair.1, place offsets pair.2))))

def targets : Form → List Nat
  | .fixed _ => []
  | .jump _ target => [target]
  | .tableSwitch default _ _ targets => default :: targets
  | .lookupSwitch default pairs => default :: pairs.map Prod.snd

-- All targets are instructions of the body, and two bytes suffice where only two are written.
structure Reaches (offsets : Offsets) (offset : Nat) (form : Form) : Prop where
  inside : ∀ target ∈ form.targets, target + 1 < offsets.size
  near : ∀ opcode target, form = .jump opcode target → Opcode.isWideJump opcode = false →
    fits16 (distance offset (place offsets target)) = true

theorem length_spelled (offsets : Offsets) (offset : Nat) (form : Form) :
    (form.spelled offsets offset).length = form.size offset := by
  cases form with
  | fixed bytes => rfl
  | jump opcode target =>
    simp only [spelled, size, List.length_cons]
    split <;> simp [length_word]
  | tableSwitch default low high targets =>
    simp only [spelled, size, List.length_cons, List.length_append, List.length_replicate,
      length_word, Bytes.length_i32, List.length_flatMap, List.map_const', List.sum_replicate_nat]
    omega
  | lookupSwitch default pairs =>
    simp only [spelled, size, List.length_cons, List.length_append, List.length_replicate,
      length_word, pairBytes, Bytes.length_i32, List.length_flatMap, List.map_const',
      List.sum_replicate_nat]
    omega

end Form

section Emission
variable {offsets : Offsets} {position offset : Nat} (here : offsets[position]? = some offset)
include here

theorem emit_jump_ok_iff {opcode : UInt8} {target : Nat} {piece : Bytes} :
    emit offsets position (.jump opcode target) = .ok piece ↔
      (Form.jump opcode target).Reaches offsets offset ∧
        piece = (Form.jump opcode target).spelled offsets offset := by
  simp only [emit, bind_ok_iff, relative_ok_iff here, Form.spelled]
  constructor
  · intro stated
    rcases stated with ⟨_, ⟨inside, rfl⟩, shown⟩
    split at shown
    · rename_i wide
      obtain rfl := pure_ok_iff.mp shown
      refine ⟨⟨by simpa [Form.targets] using inside, ?_⟩, by simp [wide]⟩
      intro _ _ same narrow
      cases same
      rw [wide] at narrow
      cases narrow
    · rename_i narrow
      split at shown
      · rename_i near
        obtain rfl := pure_ok_iff.mp shown
        refine ⟨⟨by simpa [Form.targets] using inside, ?_⟩, by simp [narrow]⟩
        intro _ _ same _
        cases same
        exact near
      · cases shown
  · intro stated
    rcases stated with ⟨⟨inside, near⟩, rfl⟩
    refine ⟨_, ⟨inside target (by simp [Form.targets]), rfl⟩, ?_⟩
    cases width : Opcode.isWideJump opcode with
    | true => rfl
    | false =>
      rw [near _ _ rfl width]
      rfl

theorem pair_ok_iff (pair : Int32 × Nat) (found : Bytes) :
    (do return Bytes.i32 pair.1 ++ word (← relative offsets position pair.2) : Except Error Bytes) =
        .ok found ↔
      pair.2 + 1 < offsets.size ∧ found = pairBytes offset (pair.1, place offsets pair.2) := by
  simp only [bind_ok_iff, pure_ok_iff, relative_ok_iff here]
  constructor
  · intro stated
    rcases stated with ⟨_, ⟨inside, rfl⟩, rfl⟩
    exact ⟨inside, rfl⟩
  · intro stated
    rcases stated with ⟨inside, rfl⟩
    exact ⟨_, ⟨inside, rfl⟩, rfl⟩

theorem emit_ok_iff {form : Form} {piece : Bytes} :
    emit offsets position form = .ok piece ↔
      form.Reaches offsets offset ∧ piece = form.spelled offsets offset := by
  have start : offsets.getD position 0 = offset := by simp [here]
  cases form with
  | fixed bytes =>
    simp only [emit, Except.ok.injEq, Form.spelled]
    constructor
    · intro same
      subst same
      exact ⟨⟨by simp [Form.targets], by simp⟩, rfl⟩
    · intro stated
      rcases stated with ⟨_, rfl⟩
      rfl
  | jump opcode target => exact emit_jump_ok_iff here
  | tableSwitch default low high targets =>
    simp only [emit, bind_ok_iff, pure_ok_iff, mapM_ok_iff, relative_ok_iff here, forall₂_map_iff,
      Form.spelled, start]
    constructor
    · intro stated
      rcases stated with ⟨_, ⟨first, rfl⟩, _, ⟨others, rfl⟩, rfl⟩
      refine ⟨⟨List.forall_mem_cons.mpr ⟨first, others⟩, by simp⟩, ?_⟩
      simp [List.flatMap_map]
    · intro stated
      rcases stated with ⟨⟨inside, _⟩, rfl⟩
      obtain ⟨first, others⟩ := List.forall_mem_cons.mp inside
      refine ⟨_, ⟨first, rfl⟩, _, ⟨others, rfl⟩, ?_⟩
      simp [List.flatMap_map]
  | lookupSwitch default pairs =>
    simp only [emit, bind_ok_iff, pure_ok_iff, mapM_ok_iff, relative_ok_iff here, pair_ok_iff here,
      forall₂_map_iff, Form.spelled, start]
    constructor
    · intro stated
      rcases stated with ⟨_, ⟨first, rfl⟩, _, ⟨others, rfl⟩, rfl⟩
      refine ⟨⟨List.forall_mem_cons.mpr ⟨first, ?_⟩, by simp⟩, by simp [List.flatMap]⟩
      intro target member
      obtain ⟨pair, present, rfl⟩ := List.mem_map.mp member
      exact others pair present
    · intro stated
      rcases stated with ⟨⟨inside, _⟩, rfl⟩
      obtain ⟨first, others⟩ := List.forall_mem_cons.mp inside
      have all : ∀ pair ∈ pairs, pair.2 + 1 < offsets.size := fun pair member =>
        others _ (List.mem_map_of_mem member)
      exact ⟨_, ⟨first, rfl⟩, _, ⟨all, rfl⟩, by simp [List.flatMap]⟩

end Emission

inductive Emitted (offsets : Offsets) : Nat → List Form → Bytes → List Nat → Prop where
  | done : Emitted offsets offset [] [] []
  | step (reaches : Form.Reaches offsets offset form)
      (tail : Emitted offsets (offset + form.size offset) forms code starts) :
      Emitted offsets offset (form :: forms) (form.spelled offsets offset ++ code) (offset :: starts)

structure LaidOut (forms : List Form) (body : EncodedBody) (starts : List Nat) : Prop where
  emitted : Emitted body.offsets 0 forms body.code starts
  offsets : body.offsets = starts.toArray.push body.code.length
  short : body.code.length ≤ maxLength

namespace Emitted

theorem layoutFrom_eq (emitted : Emitted offsets offset forms code starts) (front : Offsets)
    (short : offset + code.length ≤ maxLength) :
    layoutFrom front offset forms = .ok ((front ++ starts.toArray).push (offset + code.length)) := by
  induction emitted generalizing front with
  | done => simp [layoutFrom]
  | @step offset form forms code starts _ _ ih =>
    rw [List.length_append, Form.length_spelled, ← Nat.add_assoc] at short ⊢
    have room : ¬ maxLength < offset + form.size offset := by omega
    rw [layoutFrom, if_neg room, ih _ short]
    simp

theorem stands {form : Form} {position : Nat} (emitted : Emitted offsets offset forms code starts)
    (present : forms[position]? = some form) :
    ∃ start, starts[position]? = some start ∧ form.Reaches offsets start := by
  induction emitted generalizing position with
  | done => simp at present
  | step reaches _ ih =>
    cases position with
    | zero =>
      cases present
      exact ⟨_, rfl, reaches⟩
    | succ position => exact ih (by simpa using present)

theorem pieces (emitted : Emitted offsets offset forms code starts) (position : Nat)
    (placed : ∀ index start, starts[index]? = some start →
      offsets[position + index]? = some start) :
    ∃ pieces, List.Forall₂ (fun item piece => emit offsets item.2 item.1 = .ok piece)
      (forms.zipIdx position) pieces ∧ pieces.flatten = code := by
  induction emitted generalizing position with
  | done => exact ⟨[], .nil, rfl⟩
  | @step offset form forms code starts reaches _ ih =>
    have here : offsets[position]? = some offset := placed 0 offset rfl
    obtain ⟨pieces, others, same⟩ := ih (position + 1) fun index start present => by
      rw [Nat.add_assoc, Nat.add_comm 1]
      exact placed (index + 1) start (by simpa using present)
    exact ⟨form.spelled offsets offset :: pieces,
      .cons ((emit_ok_iff here).mpr ⟨reaches, rfl⟩) others, by simp [same]⟩

end Emitted

theorem emitted_of_layoutFrom (front : Offsets) (offset : Nat) (forms : List Form)
    (laid : layoutFrom front offset forms = .ok offsets)
    (written : List.Forall₂ (fun item piece => emit offsets item.2 item.1 = .ok piece)
      (forms.zipIdx front.size) pieces) (started : offset ≤ maxLength) :
    ∃ starts, Emitted offsets offset forms pieces.flatten starts ∧
      offsets = (front ++ starts.toArray).push (offset + pieces.flatten.length) ∧
      offset + pieces.flatten.length ≤ maxLength := by
  induction forms generalizing front offset pieces with
  | nil =>
    cases laid
    cases written
    exact ⟨[], .done, by simp, by simpa using started⟩
  | cons form forms ih =>
    rw [layoutFrom] at laid
    split at laid
    · cases laid
    · rename_i room
      cases written with
      | @cons _ piece _ pieces first others =>
        obtain ⟨starts, emitted, placed, short⟩ :=
          ih (front.push offset) _ laid (by simpa using others) (Nat.le_of_not_lt room)
        have here : offsets[front.size]? = some offset := by
          rw [placed]
          simp
        obtain ⟨reaches, rfl⟩ := (emit_ok_iff here).mp first
        have ending : offset + (form.spelled offsets offset :: pieces).flatten.length =
            offset + form.size offset + pieces.flatten.length := by
          rw [List.flatten_cons, List.length_append, Form.length_spelled, Nat.add_assoc]
        rw [ending]
        exact ⟨offset :: starts, .step reaches emitted, by rw [placed]; simp, short⟩

inductive Widened : Form → Form → Prop where
  | same : Widened form form
  | wide (narrow : Opcode.isNarrowJump opcode = true) :
      Widened (.jump opcode target) (.jump (Opcode.wideJump opcode) target)

theorem Widened.trans (first : Widened form middle) (second : Widened middle last) :
    Widened form last := by
  cases first with
  | same => exact second
  | @wide opcode target narrow =>
    cases second with
    | same => exact .wide narrow
    | wide again =>
      rcases Opcode.narrow_cases narrow with rfl | rfl
      · cases again
      · cases again

theorem widened_widen (offsets : Offsets) (position : Nat) (form : Form) :
    Widened form (form.widen offsets position) := by
  cases form with
  | jump opcode target =>
    by_cases far : Opcode.isNarrowJump opcode = true ∧
        ¬ (offsets.distance? position target).all fits16
    · rw [Form.widen, if_pos far]
      exact .wide far.1
    · rw [Form.widen, if_neg far]
      exact .same
  | _ => exact .same

theorem widened_mapIdx (change : Nat → Form → Form)
    (widened : ∀ position form, Widened form (change position form)) (forms : List Form) :
    List.Forall₂ Widened forms (forms.mapIdx change) := by
  induction forms generalizing change with
  | nil => exact .nil
  | cons form forms ih =>
    rw [List.mapIdx_cons]
    exact .cons (widened 0 form) (ih _ fun position form => widened (position + 1) form)

theorem widened_settle (forms : List Form) (ran : settle forms = .ok (settled, offsets)) :
    List.Forall₂ Widened forms settled ∧ layout settled = .ok offsets := by
  induction measured : forms.countP Form.isNarrowJump using Nat.strongRecOn generalizing forms with
  | ind narrow ih =>
    rw [settle] at ran
    simp only [bind_ok_iff] at ran
    obtain ⟨found, laid, next⟩ := ran
    split at next
    · rename_i fewer
      obtain ⟨related, last⟩ := ih _ (measured ▸ fewer) _ next rfl
      have once := widened_mapIdx _ (widened_widen found) forms
      have both := forall₂_trans (R := Widened) (S := Widened) (T := Widened)
        (fun _ _ _ => Widened.trans) once related
      exact ⟨both, last⟩
    · cases pure_ok_iff.mp next
      exact ⟨List.forall₂_same.mpr fun _ _ => .same, laid⟩

theorem encodeForms_sound (ran : encodeForms forms = .ok body) :
    ∃ settled starts, List.Forall₂ Widened forms settled ∧ LaidOut settled body starts := by
  simp only [encodeForms, bind_ok_iff, pure_ok_iff, mapM_ok_iff] at ran
  obtain ⟨⟨settled, offsets⟩, ended, pieces, written, rfl⟩ := ran
  obtain ⟨related, laid⟩ := widened_settle forms ended
  obtain ⟨starts, emitted, placed, short⟩ :=
    emitted_of_layoutFrom #[] 0 settled laid written (Nat.zero_le _)
  exact ⟨settled, starts, related, emitted, by simpa using placed, by simpa using short⟩

-- Nothing is widened where everything reaches its targets.
theorem Form.Reaches.widen_eq (reaches : Form.Reaches offsets offset form)
    (here : offsets[position]? = some offset) : form.widen offsets position = form := by
  cases form with
  | jump opcode target =>
    have near : Opcode.isNarrowJump opcode = true →
        (offsets.distance? position target).all fits16 = true := by
      intro narrow
      have inside := reaches.inside target (by simp [Form.targets])
      rw [(distance?_iff here).mpr ⟨inside, rfl⟩]
      have short : Opcode.isWideJump opcode = false := by
        rcases Opcode.narrow_cases narrow with rfl | rfl <;> rfl
      exact reaches.near opcode target rfl short
    rw [Form.widen, if_neg]
    intro stated
    rcases stated with ⟨narrow, far⟩
    exact far (near narrow)
  | _ => rfl

theorem mapIdx_eq_self {change : Nat → α → α} {items : List α}
    (same : ∀ position item, items[position]? = some item → change position item = item) :
    items.mapIdx change = items := by
  refine List.ext_getElem? fun position => ?_
  rw [List.getElem?_mapIdx]
  cases present : items[position]? with
  | none => rfl
  | some item => rw [Option.map_some, same position item present]

theorem encodeForms_of_laidOut (laidOut : LaidOut forms body starts) :
    encodeForms forms = .ok body := by
  obtain ⟨emitted, offsets, short⟩ := laidOut
  have placed : ∀ (position start : Nat), starts[position]? = some start →
      body.offsets[position]? = some start := fun _ _ present =>
    offsets ▸ getElem?_starts present _
  have laid : layout forms = .ok body.offsets := by
    rw [layout, emitted.layoutFrom_eq #[] (by omega), offsets]
    simp
  have kept : forms.mapIdx (Form.widen body.offsets) = forms := by
    refine mapIdx_eq_self fun position form present => ?_
    obtain ⟨start, here, reaches⟩ := emitted.stands present
    exact reaches.widen_eq (placed position start here)
  have ended : settle forms = .ok (forms, body.offsets) := by
    rw [settle, laid]
    change (if (forms.mapIdx (Form.widen body.offsets)).countP Form.isNarrowJump <
      forms.countP Form.isNarrowJump then _ else _) = _
    rw [kept, if_neg (Nat.lt_irrefl _)]
    rfl
  obtain ⟨pieces, written, same⟩ := emitted.pieces 0 (by simpa using placed)
  simp only [encodeForms, bind_ok_iff, pure_ok_iff, mapM_ok_iff]
  exact ⟨_, ended, pieces, written, by rw [same]⟩

end Body
end ClassRename
