import ClassRename.Proofs.Body.Boundaries
import ClassRename.Proofs.Body.Standing

namespace ClassRename
open Effects

def Instruction.isNarrowJump : Instruction → Bool
  | .branch opcode _ => Opcode.isNarrowJump opcode
  | _ => false

theorem Opcode.other_of_fixed {opcode : UInt8} (narrow : isNarrowJump opcode = false)
    (wide : isWideJump opcode = false) :
    opcode ≠ goto ∧ opcode ≠ jsr ∧ opcode ≠ gotoW ∧ opcode ≠ jsrW := by
  simpa [isNarrowJump, isWideJump, and_assoc] using And.intro narrow wide

namespace Body

-- Forms are laid out and widened until nothing grows; `last` are those that the last round lays out.
inductive Rounds : Nat → List Form → List Form → Except Error Offsets → Prop where
  | refused (stopped : layout forms = .error error) : Rounds 1 forms forms (.error error)
  | settled (placed : layout forms = .ok offsets)
      (still : forms.mapIdx (Form.widen offsets) = forms) : Rounds 1 forms forms (.ok offsets)
  | again (placed : layout forms = .ok offsets) (grew : forms.mapIdx (Form.widen offsets) ≠ forms)
      (later : Rounds count (forms.mapIdx (Form.widen offsets)) last result) :
      Rounds (count + 1) forms last result

theorem Widened.fewer (widened : List.Forall₂ Widened forms wider) :
    wider = forms ∨ wider.countP Form.isNarrowJump < forms.countP Form.isNarrowJump := by
  induction widened with
  | nil => exact .inl rfl
  | @cons form wide forms wider first _ ih =>
    have none : wider.countP Form.isNarrowJump ≤ forms.countP Form.isNarrowJump := by
      rcases ih with rfl | less
      · exact Nat.le_refl _
      · exact Nat.le_of_lt less
    rw [List.countP_cons, List.countP_cons]
    cases first with
    | same => exact ih.imp (congrArg _) (Nat.add_lt_add_right · _)
    | @wide opcode target narrow =>
      have grown : Opcode.isNarrowJump (Opcode.wideJump opcode) = false := by
        rcases Opcode.narrow_cases narrow with rfl | rfl <;> rfl
      refine .inr ?_
      rw [Form.isNarrowJump, Form.isNarrowJump, narrow, grown]
      exact Nat.lt_succ_of_le none

theorem settle_rounds (forms : List Form) : ∃ count last result,
    count ≤ forms.countP Form.isNarrowJump + 1 ∧ Rounds count forms last result ∧
      settle forms = result.map (last, ·) := by
  induction measured : forms.countP Form.isNarrowJump using Nat.strongRecOn generalizing forms with
  | ind narrow ih =>
    subst measured
    rw [settle]
    cases placed : layout forms with
    | error error => exact ⟨1, forms, .error error, Nat.le_add_left _ _, .refused placed, rfl⟩
    | ok offsets =>
      have fewer := Widened.fewer (widened_mapIdx _ (widened_widen offsets) forms)
      by_cases still : forms.mapIdx (Form.widen offsets) = forms
      · refine ⟨1, forms, .ok offsets, Nat.le_add_left _ _, .settled placed still, ?_⟩
        change (if _ then _ else _) = _
        rw [still, if_neg (Nat.lt_irrefl _)]
        rfl
      · have less := fewer.resolve_left still
        obtain ⟨count, last, result, bound, rounds, same⟩ := ih _ less _ rfl
        refine ⟨count + 1, last, result, by omega, .again placed still rounds, ?_⟩
        change (if _ then _ else _) = _
        rw [if_pos less, same]

namespace Rounds

theorem widened (rounds : Rounds count forms last result) : List.Forall₂ Widened forms last := by
  induction rounds with
  | refused | settled => exact List.forall₂_same.mpr fun _ _ => .same
  | @again forms offsets _ _ _ _ _ _ ih =>
    have once := widened_mapIdx _ (widened_widen offsets) forms
    exact forall₂_trans (R := Widened) (S := Widened) (T := Widened)
      (fun _ _ _ => Widened.trans) once ih

theorem layout_eq (rounds : Rounds count forms last result) : layout last = result := by
  induction rounds with
  | refused stopped => exact stopped
  | settled placed => exact placed
  | again _ _ _ ih => exact ih

theorem reached {opcode : UInt8} (rounds : Rounds count forms last (.ok offsets))
    (present : last[position]? = some (.jump opcode target))
    (narrow : Opcode.isNarrowJump opcode = true)
    (found : offsets.distance? position target = some length) : fits16 length = true := by
  generalize ended : Except.ok offsets = result at rounds
  induction rounds with
  | refused => cases ended
  | again _ _ _ ih => exact ih present ended
  | @settled forms _ _ still =>
    cases ended
    have same : (forms.mapIdx (Form.widen offsets))[position]? = forms[position]? := by rw [still]
    rw [List.getElem?_mapIdx, present, Option.map_some, Form.widen, found] at same
    by_contra far
    rw [if_pos ⟨narrow, by simpa using far⟩] at same
    have kept : Opcode.wideJump opcode = opcode := by simpa using same
    rcases Opcode.narrow_cases narrow with rfl | rfl <;> cases kept

end Rounds

-- An instruction as it is written from an offset on: with some index for its constant, and with
-- what leads from it to its targets in full.
inductive WrittenAs (offsets : Offsets) (start : Nat) : Bytes → Instruction → Prop where
  | field : WrittenAs offsets start (access.opcode :: Bytes.u16 index) (.field access)
  | method :
      WrittenAs offsets start (call.opcode :: Bytes.u16 index ++ callSuffix call) (.method call)
  | load : WrittenAs offsets start (loadBytes constant index) (.load constant)
  | near {opcode : UInt8} {stored : Int16} (narrow : Opcode.isWideJump opcode = false)
      (aims : Aims offsets start target stored.toInt) :
      WrittenAs offsets start (opcode :: Bytes.i16 stored) (.branch opcode target)
  | far {opcode : UInt8} {stored : Int32} (wide : Opcode.isWideJump opcode = true)
      (aims : Aims offsets start target stored.toInt) :
      WrittenAs offsets start (opcode :: Bytes.i32 stored) (.branch opcode target)
  | promoted {opcode : UInt8} {stored : Int32} (narrow : Opcode.isNarrowJump opcode = true)
      (aims : Aims offsets start target stored.toInt) :
      WrittenAs offsets start (Opcode.wideJump opcode :: Bytes.i32 stored) (.branch opcode target)
  | tableSwitch {default : Nat} {first : Int32} (aims : Aims offsets start default first.toInt)
      (others : List.Forall₂ (fun target stored => Aims offsets start target stored.toInt)
        targets stored) :
      WrittenAs offsets start
        (Opcode.tableSwitch :: (List.replicate (padding (start + 1)) 0 ++ (Bytes.i32 first ++
          (Bytes.i32 low ++ (Bytes.i32 high ++ stored.flatMap Bytes.i32)))))
        (.tableSwitch default low high targets)
  | lookupSwitch {default : Nat} {first count : Int32} {pairs : List (Int32 × Nat)}
      {stored : List (Int32 × Int32)} (aims : Aims offsets start default first.toInt)
      (counted : count.toInt = pairs.length)
      (others : List.Forall₂ (fun pair found => pair.1 = found.1 ∧
        Aims offsets start pair.2 found.2.toInt) pairs stored) :
      WrittenAs offsets start
        (Opcode.lookupSwitch :: (List.replicate (padding (start + 1)) 0 ++ (Bytes.i32 first ++
          (Bytes.i32 count ++ stored.flatMap fun found => Bytes.i32 found.1 ++ Bytes.i32 found.2))))
        (.lookupSwitch default pairs)
  | other {opcode : UInt8} : WrittenAs offsets start (opcode :: operands) (.other opcode operands)

structure Standing (offsets : Offsets) (start : Nat) (bytes : Bytes) (form : Form) : Prop where
  reaches : form.Reaches offsets start
  spelled : bytes = form.spelled offsets start
  some : 0 < bytes.length
  short : start + bytes.length ≤ maxLength

theorem Emitted.tiled (emitted : Emitted offsets offset forms code starts)
    (some : ∀ form ∈ forms, form ≠ .fixed []) (short : offset + code.length ≤ maxLength) :
    Tiled (Standing offsets) offset code starts forms := by
  induction emitted with
  | done => exact .done
  | @step offset form forms code starts reaches _ ih =>
    obtain ⟨here, behind⟩ := List.forall_mem_cons.mp some
    have length := form.length_spelled offsets offset
    rw [List.length_append, ← Nat.add_assoc] at short
    have nonempty : 0 < form.size offset := by
      cases form with
      | fixed bytes => exact List.length_pos_iff.mpr fun empty => here (by rw [empty])
      | jump opcode target =>
        rw [Form.size]
        split <;> decide
      | tableSwitch | lookupSwitch =>
        rw [Form.size]
        omega
    refine .step ⟨reaches, rfl, length ▸ nonempty, by omega⟩ ?_
    rw [length]
    exact ih behind (length ▸ short)

def Grown (instruction : Instruction) (form : Form) : Prop :=
  ∃ index base, Formed index instruction base ∧ Widened base form

theorem aims_place {offsets : Offsets} (inside : target + 1 < offsets.size) (start : Nat) :
    Aims offsets start target (distance start (place offsets target)) := by
  refine ⟨inside, offsets[target], Array.getElem?_eq_getElem _, ?_⟩
  rw [distance, place, Array.getD_eq_getD_getElem?, Array.getElem?_eq_getElem (by omega),
    Option.getD_some]

theorem Standing.writtenAs (standing : Standing offsets start bytes form)
    (grown : Grown instruction form) (bounded : ∀ position, place offsets position ≤ maxLength) :
    WrittenAs offsets start bytes instruction := by
  obtain ⟨⟨inside, near⟩, rfl, _, short⟩ := standing
  have exact : ∀ target, (Int32.ofInt (distance start (place offsets target))).toInt =
      distance start (place offsets target) := by
    intro target
    have here : start ≤ maxLength := Nat.le_trans (Nat.le_add_right start _) short
    obtain ⟨low, high⟩ := fits32_distance here (bounded target)
    exact Int32.toInt_ofInt_of_le low high
  have aims : ∀ target, target + 1 < offsets.size → Aims offsets start target
      (Int32.ofInt (distance start (place offsets target))).toInt := by
    intro target bound
    rw [exact]
    exact aims_place bound start
  obtain ⟨index, base, formed, widened⟩ := grown
  cases formed with
  | field =>
    cases widened
    exact .field
  | method =>
    cases widened
    exact .method
  | load =>
    cases widened
    exact .load
  | other =>
    cases widened
    exact .other
  | @branch target opcode =>
    cases widened with
    | same =>
      cases width : Opcode.isWideJump opcode with
      | true =>
        simp only [Form.spelled, width]
        exact .far width (aims target (inside target List.mem_cons_self))
      | false =>
        obtain ⟨low, high⟩ := (fits16_iff _).mp (near opcode target rfl width)
        simp only [Form.spelled, width]
        refine .near width ?_
        rw [Int16.toInt_ofInt_of_le low high]
        exact aims_place (inside target List.mem_cons_self) start
    | wide narrow =>
      have width : Opcode.isWideJump (Opcode.wideJump opcode) = true := by
        rcases Opcode.narrow_cases narrow with rfl | rfl <;> rfl
      simp only [Form.spelled, width]
      exact .promoted narrow (aims target (inside target List.mem_cons_self))
  | @tableSwitch low high default targets =>
    cases widened
    obtain ⟨first, others⟩ := List.forall_mem_cons.mp inside
    have listed : (targets.flatMap fun target => word (distance start (place offsets target))) =
        (targets.map fun target => Int32.ofInt (distance start (place offsets target))).flatMap
          Bytes.i32 := by
      rw [List.flatMap_map]
      rfl
    rw [Form.spelled, listed]
    refine .tableSwitch (aims default first) ?_
    exact List.forall₂_map_right_iff.mpr (List.forall₂_same.mpr fun target member =>
      aims target (others target member))
  | @lookupSwitch pairs default =>
    cases widened
    obtain ⟨first, others⟩ := List.forall_mem_cons.mp inside
    have listed : (pairs.flatMap fun pair => pairBytes start (pair.1, place offsets pair.2)) =
        (pairs.map fun pair => (pair.1, Int32.ofInt (distance start (place offsets pair.2)))).flatMap
          fun found => Bytes.i32 found.1 ++ Bytes.i32 found.2 := by
      rw [List.flatMap_map]
      rfl
    have few : pairs.length < 2 ^ 31 := by
      rw [Form.length_spelled] at short
      simp only [Form.size, maxLength] at short
      omega
    rw [Form.spelled, listed]
    refine .lookupSwitch (aims default first) (Int32.toInt_ofInt_of_le (by omega) (by omega)) ?_
    exact List.forall₂_map_right_iff.mpr (List.forall₂_same.mpr fun pair member =>
      ⟨rfl, aims pair.2 (others pair.2 (List.mem_map_of_mem member))⟩)

theorem Grown.nonempty (grown : Grown instruction form) : form ≠ .fixed [] := by
  obtain ⟨index, base, formed, widened⟩ := grown
  cases widened with
  | wide => exact nofun
  | same =>
    cases formed with
    | @load constant =>
      intro empty
      have length := length_loadBytes constant index
      rw [Form.fixed.inj empty] at length
      split at length <;> cases length
    | _ => exact nofun

theorem Grown.branch {opcode : UInt8} (grown : Grown instruction (.jump opcode target))
    (narrow : Opcode.isWideJump opcode = false) : instruction = .branch opcode target := by
  obtain ⟨index, base, formed, widened⟩ := grown
  cases widened with
  | same =>
    cases formed
    rfl
  | wide promoted => rcases Opcode.narrow_cases promoted with rfl | rfl <;> cases narrow

theorem countP_formed
    (formed : List.Forall₂ (fun instruction form => ∃ index, Formed index instruction form)
      instructions forms) :
    forms.countP Form.isNarrowJump = instructions.countP Instruction.isNarrowJump := by
  induction formed with
  | nil => rfl
  | @cons instruction form _ _ first _ ih =>
    have same : form.isNarrowJump = instruction.isNarrowJump := by
      obtain ⟨index, formed⟩ := first
      cases formed <;> rfl
    rw [List.countP_cons, List.countP_cons, ih, same]

def extent (offset : Nat) (forms : List Form) : Nat :=
  forms.foldl (fun offset form => offset + form.size offset) offset

theorem le_extent (offset : Nat) (forms : List Form) : offset ≤ extent offset forms := by
  induction forms generalizing offset with
  | nil => exact Nat.le_refl _
  | cons form forms ih => exact Nat.le_trans (Nat.le_add_right _ _) (ih (offset + form.size offset))

theorem layoutFrom_error {forms : List Form} {offset : Nat} {front : Offsets}
    (stopped : layoutFrom front offset forms = .error error) :
    error = .relayout .bodyTooLong ∧ maxLength < extent offset forms := by
  induction forms generalizing front offset with
  | nil => cases stopped
  | cons form forms ih =>
    rw [layoutFrom] at stopped
    split at stopped
    · rename_i long
      cases stopped
      exact ⟨rfl, Nat.lt_of_lt_of_le long (le_extent _ forms)⟩
    · exact ih stopped

theorem relative_error {offsets : Offsets}
    (stopped : relative offsets position target = .error error) :
    error = .malformed (.targetOutsideBody position target) := by
  unfold relative at stopped
  split at stopped
  · cases stopped
  · cases stopped
    rfl

theorem distance?_of_relative {offsets : Offsets}
    (led : relative offsets position target = .ok found) :
    offsets.distance? position target = some found := by
  unfold relative at led
  split at led
  · rename_i present
    cases led
    exact present
  · cases led

-- Only a branch that keeps its two bytes can be out of reach.
theorem emit_far {offsets : Offsets} {form : Form}
    (stopped : emit offsets position form = .error (.relayout obstacle)) :
    ∃ opcode target found, form = .jump opcode target ∧ Opcode.isWideJump opcode = false ∧
      offsets.distance? position target = some found ∧ fits16 found = false ∧
      obstacle = .branchTooFar (Opcode.mnemonic opcode) position found := by
  have never : ∀ target, relative offsets position target ≠ .error (.relayout obstacle) := by
    intro target impossible
    cases relative_error impossible
  cases form with
  | fixed => cases stopped
  | jump opcode target =>
    rw [emit, bind_error_iff] at stopped
    rcases stopped with outside | ⟨found, led, behind⟩
    · exact absurd outside (never target)
    · cases width : Opcode.isWideJump opcode with
      | true =>
        rw [width] at behind
        cases behind
      | false =>
        cases near : fits16 found with
        | true =>
          rw [width, near] at behind
          cases behind
        | false =>
          rw [width, near] at behind
          cases behind
          exact ⟨opcode, target, found, rfl, width, distance?_of_relative led, near, rfl⟩
  | tableSwitch default low high targets =>
    rw [emit, bind_error_iff] at stopped
    rcases stopped with outside | ⟨_, _, behind⟩
    · exact absurd outside (never default)
    · rcases bind_error_iff.mp behind with outside | ⟨_, _, impossible⟩
      · obtain ⟨target, _, outside⟩ := mapM_error outside
        exact absurd outside (never target)
      · cases impossible
  | lookupSwitch default pairs =>
    rw [emit, bind_error_iff] at stopped
    rcases stopped with outside | ⟨_, _, behind⟩
    · exact absurd outside (never default)
    · rcases bind_error_iff.mp behind with outside | ⟨_, _, impossible⟩
      · obtain ⟨pair, _, outside⟩ := mapM_error outside
        rcases bind_error_iff.mp outside with outside | ⟨_, _, impossible⟩
        · exact absurd outside (never pair.2)
        · cases impossible
      · cases impossible

theorem layoutFrom_size {forms : List Form} {offset : Nat} {front : Offsets}
    (placed : layoutFrom front offset forms = .ok offsets) :
    offsets.size = front.size + forms.length + 1 := by
  induction forms generalizing front offset with
  | nil =>
    cases placed
    exact Array.size_push _
  | cons form forms ih =>
    rw [layoutFrom] at placed
    split at placed
    · cases placed
    · rw [ih placed, Array.size_push, List.length_cons]
      omega

theorem layout_size {forms : List Form} (placed : layout forms = .ok offsets) :
    offsets.size = forms.length + 1 := by
  rw [layoutFrom_size placed, Array.size_empty, Nat.zero_add]

theorem emit_refused {offsets : Offsets} {form : Form} (here : offsets[position]? = some offset)
    (inside : ∀ target ∈ form.targets, target + 1 < offsets.size)
    (stopped : emit offsets position form = .error error) :
    ∃ obstacle, error = .relayout obstacle := by
  cases form with
  | jump opcode target =>
    have led := (relative_ok_iff here).mpr ⟨inside target List.mem_cons_self, rfl⟩
    rw [emit, bind_error_iff, led] at stopped
    rcases stopped with impossible | ⟨_, same, behind⟩
    · cases impossible
    · cases same
      split at behind
      · cases behind
      · split at behind
        · cases behind
        · cases behind
          exact ⟨_, rfl⟩
  | fixed | tableSwitch | lookupSwitch =>
    rw [(emit_ok_iff here).mpr ⟨⟨inside, fun _ _ same _ => by cases same⟩, rfl⟩] at stopped
    cases stopped

theorem Widened.targets_eq (widened : Widened form wider) : wider.targets = form.targets := by
  cases widened <;> rfl

-- Why forms are not written: they end too far behind, or one of them is a branch out of reach and
-- neither a jump that can be made wide nor one that is.
inductive Overflows (instructions : List Instruction) (last : List Form) :
    Except Error Offsets → Obstacle → Prop where
  | long (beyond : 65535 < extent 0 last) :
      Overflows instructions last (.error (.relayout .bodyTooLong)) .bodyTooLong
  | far {opcode : UInt8} (branch : instructions[position]? = some (.branch opcode target))
      (other : opcode ≠ Opcode.goto ∧ opcode ≠ Opcode.jsr ∧ opcode ≠ Opcode.gotoW ∧
        opcode ≠ Opcode.jsrW)
      (begins : offsets[position]? = some start) (aims : Aims offsets start target found)
      (beyond : found < -32768 ∨ 32767 < found) :
      Overflows instructions last (.ok offsets)
        (.branchTooFar (Opcode.mnemonic opcode) position found)

structure WrittenFrom (instructions : List Instruction) (last : List Form) (body : EncodedBody) :
    Prop where
  short : body.code.length ≤ 65535
  cuts : Cuts (WrittenAs body.offsets) body.offsets body.code instructions
  emitted : ∀ (position start stop : Nat) (form : Form), last[position]? = some form →
    body.offsets[position]? = some start → body.offsets[position + 1]? = some stop →
      stop = start + form.size start ∧
        emit body.offsets position form = .ok ((body.code.drop start).take (stop - start))

theorem LaidOut.writtenFrom (laidOut : LaidOut last body starts)
    (grown : List.Forall₂ Grown instructions last) : WrittenFrom instructions last body := by
  have bounded := laidOut.bounded
  obtain ⟨emitted, offsets, short⟩ := laidOut
  have some : ∀ form ∈ last, form ≠ .fixed [] := by
    intro form member
    obtain ⟨_, _, one⟩ := forall₂_partner grown member
    exact one.nonempty
  have tiled := emitted.tiled some (by omega)
  have cuts : Cuts (Standing body.offsets) body.offsets body.code last := by
    have cuts := tiled.cuts Standing.some
    rwa [← offsets] at cuts
  refine ⟨short, ?_, ?_⟩
  · exact cuts.related grown fun start bytes form instruction grown standing =>
      standing.writtenAs grown bounded
  · intro position start stop form present begins ends
    have standing := cuts.pieces position start stop form present begins ends
    obtain ⟨before, inside⟩ := cuts.bounds begins ends
    have length := congrArg List.length standing.spelled
    rw [form.length_spelled, List.length_take, List.length_drop] at length
    exact ⟨by omega, (emit_ok_iff begins).mpr ⟨standing.reaches, standing.spelled⟩⟩

theorem encodeForms_error (resolved : instructions.mapM resolve pool = .ok forms later)
    (ran : encode instructions pool = .error error after) : encodeForms forms = .error error := by
  rw [encode, bind_apply, resolved] at ran
  dsimp only at ran
  cases written : encodeForms forms with
  | ok body =>
    rw [written] at ran
    cases ran
  | error given =>
    rw [written] at ran
    cases ran
    rfl

theorem encode_of_refused (resolved : instructions.mapM resolve pool = .ok forms later)
    (stopped : encodeForms forms = .error error) :
    encode instructions pool = .error error later := by
  rw [encode, bind_apply, resolved]
  dsimp only
  rw [stopped]
  rfl

theorem Rounds.written (rounds : Rounds count forms last result)
    (ended : settle forms = result.map (last, ·)) (ran : encodeForms forms = .ok body) :
    result = .ok body.offsets ∧ ∃ starts, LaidOut last body starts := by
  simp only [encodeForms, bind_ok_iff, pure_ok_iff, mapM_ok_iff] at ran
  obtain ⟨⟨_, offsets⟩, same, pieces, emitted, rfl⟩ := ran
  rw [ended] at same
  cases result with
  | error error => cases same
  | ok offsets =>
    cases same
    obtain ⟨starts, emitted, placed, short⟩ :=
      emitted_of_layoutFrom #[] 0 last rounds.layout_eq emitted (Nat.zero_le _)
    exact ⟨rfl, starts, emitted, by simpa using placed, by simpa using short⟩

theorem Rounds.far {form : Form} (rounds : Rounds count forms last (.ok offsets))
    (grown : List.Forall₂ Grown instructions last) (present : last[position]? = some form)
    (stopped : emit offsets position form = .error (.relayout obstacle)) :
    Overflows instructions last (.ok offsets) obstacle := by
  obtain ⟨opcode, target, found, rfl, width, led, far, rfl⟩ := emit_far stopped
  obtain ⟨bound, here⟩ := List.getElem?_eq_some_iff.mp present
  have narrow : Opcode.isNarrowJump opcode = false := by
    by_contra narrow
    rw [rounds.reached present (by simpa using narrow) led] at far
    cases far
  have beyond : found < -32768 ∨ 32767 < found := by
    by_contra reached
    have near := (fits16_iff found).mpr (by omega)
    rw [near] at far
    cases far
  have same := grown.length_eq
  have one := grown.get (same ▸ bound) bound
  rw [List.get_eq_getElem, List.get_eq_getElem, here] at one
  have branch : instructions[position]? = some (.branch opcode target) := by
    rw [List.getElem?_eq_getElem (same ▸ bound)]
    exact congrArg some (one.branch width)
  obtain ⟨inside, start, there, begins, aimed, same⟩ := Offsets.distance?_eq_some_iff.mp led
  exact .far branch (Opcode.other_of_fixed narrow width) begins ⟨inside, there, aimed, same⟩ beyond

theorem Rounds.overflows (rounds : Rounds count forms last result)
    (ended : settle forms = result.map (last, ·)) (grown : List.Forall₂ Grown instructions last)
    (stopped : encodeForms forms = .error (.relayout obstacle)) :
    Overflows instructions last result obstacle := by
  rw [encodeForms, ended, bind_error_iff] at stopped
  cases result with
  | error error =>
    obtain ⟨rfl, beyond⟩ := layoutFrom_error rounds.layout_eq
    rcases stopped with early | ⟨_, impossible, _⟩
    · cases early
      exact .long beyond
    · cases impossible
  | ok offsets =>
    rcases stopped with impossible | ⟨_, same, late⟩
    · cases impossible
    · cases same
      rcases bind_error_iff.mp late with late | ⟨_, _, impossible⟩
      · obtain ⟨⟨form, position⟩, member, stopped⟩ := mapM_error late
        exact rounds.far grown (List.mem_zipIdx_iff_getElem?.mp member) stopped
      · cases impossible

theorem encodeForms_refused
    (inside : ∀ form ∈ forms, ∀ target ∈ form.targets, target < forms.length)
    (stopped : encodeForms forms = .error error) : ∃ obstacle, error = .relayout obstacle := by
  obtain ⟨_, last, result, _, rounds, ended⟩ := settle_rounds forms
  rw [encodeForms, ended, bind_error_iff] at stopped
  cases result with
  | error given =>
    obtain ⟨rfl, _⟩ := layoutFrom_error rounds.layout_eq
    rcases stopped with early | ⟨_, impossible, _⟩
    · cases early
      exact ⟨_, rfl⟩
    · cases impossible
  | ok offsets =>
    rcases stopped with impossible | ⟨_, same, late⟩
    · cases impossible
    · cases same
      rcases bind_error_iff.mp late with late | ⟨_, _, impossible⟩
      · obtain ⟨⟨form, position⟩, member, stopped⟩ := mapM_error late
        have present := List.mem_zipIdx_iff_getElem?.mp member
        have size := layout_size rounds.layout_eq
        have length := rounds.widened.length_eq
        obtain ⟨bound, _⟩ := List.getElem?_eq_some_iff.mp present
        have begins : offsets[position]? = some offsets[position] :=
          Array.getElem?_eq_getElem (by omega)
        obtain ⟨base, listed, widened⟩ :=
          forall₂_partner rounds.widened (List.mem_of_getElem? present)
        refine emit_refused begins (fun target aimed => ?_) stopped
        rw [widened.targets_eq] at aimed
        have within := inside base listed target aimed
        omega
      · cases impossible

-- For every list of instructions, whatever becomes of it once their constants have indices.
theorem encode_rounds (instructions : List Instruction) (pool : Pool) :
    (∀ body later, encode instructions pool = .ok body later →
      ∃ forms, instructions.mapM resolve pool = .ok forms later) ∧
    ∀ forms later, instructions.mapM resolve pool = .ok forms later →
      ∃ count last result, count ≤ instructions.countP Instruction.isNarrowJump + 1 ∧
        Rounds count forms last result ∧
        (∀ body after, encode instructions pool = .ok body after →
          result = .ok body.offsets ∧ WrittenFrom instructions last body) ∧
        (∀ obstacle after, encode instructions pool = .error (.relayout obstacle) after →
          Overflows instructions last result obstacle) := by
  refine ⟨?_, ?_⟩
  · intro body later ran
    obtain ⟨forms, resolved, _⟩ := encode_ok_iff.mp ran
    exact ⟨forms, resolved⟩
  · intro forms later resolved
    have formed : List.Forall₂ (fun instruction form => ∃ index, Formed index instruction form)
        instructions forms := by
      refine mapM_each ?_ resolved
      intro instruction before form after ran
      exact resolve_formed ran
    obtain ⟨count, last, result, bound, rounds, ended⟩ := settle_rounds forms
    have grown : List.Forall₂ Grown instructions last :=
      forall₂_trans (fun _ base _ ⟨index, formed⟩ widened => ⟨index, base, formed, widened⟩)
        formed rounds.widened
    refine ⟨count, last, result, countP_formed formed ▸ bound, rounds, ?_, ?_⟩
    · intro body after ran
      obtain ⟨_, again, written⟩ := encode_ok_iff.mp ran
      rw [resolved] at again
      cases again
      obtain ⟨same, starts, laidOut⟩ := rounds.written ended written
      exact ⟨same, laidOut.writtenFrom grown⟩
    · intro obstacle after ran
      exact rounds.overflows ended grown (encodeForms_error resolved ran)

def farBranch (operands : Bytes) : List Instruction :=
  [.branch 0x99 2, .other 0 operands, .other 0xB1 []]

theorem farBranch_refused (many : operands.length = 32767) : encode (farBranch operands) .empty =
    .error (.relayout (.branchTooFar "ifeq" 0 32771)) .empty := by
  let forms : List Form := [.jump 0x99 2, .fixed (0 :: operands), .fixed [0xB1]]
  have resolved : (farBranch operands).mapM resolve .empty = .ok forms .empty := rfl
  have placed : layout forms = .ok #[0, 3, 32771, 32772] := by
    simp [layout, layoutFrom, forms, Form.size, many, maxLength, Opcode.isWideJump, Opcode.gotoW,
      Opcode.jsrW]
  have ended : settle forms = .ok (forms, #[0, 3, 32771, 32772]) := by
    rw [settle, placed]
    rfl
  have stopped : encodeForms forms = .error (.relayout (.branchTooFar "ifeq" 0 32771)) := by
    have first : emit #[0, 3, 32771, 32772] 0 (.jump 0x99 2) =
        .error (.relayout (.branchTooFar "ifeq" 0 32771)) := by
      decide +kernel
    rw [encodeForms, ended]
    refine bind_error_iff.mpr (.inr ⟨_, rfl, bind_error_iff.mpr (.inl ?_)⟩)
    rw [List.zipIdx_cons, List.mapM_cons]
    exact bind_error_iff.mpr (.inl first)
  exact encode_of_refused resolved stopped

theorem steppingLoop_rounds :
    (∃ count last result, count ≤ 2 ∧ (∃ forms, Rounds count forms last result) ∧
      ∃ body, result = .ok body.offsets ∧ WrittenFrom steppingLoop last body) ∧
    ∀ operands : Bytes, operands.length = 32767 → ∃ last result,
      Overflows (farBranch operands) last result (.branchTooFar "ifeq" 0 32771) := by
  refine ⟨?_, ?_⟩
  · have ran := steppingLoop_encodes
    obtain ⟨resolves, rounds⟩ := encode_rounds steppingLoop .empty
    obtain ⟨forms, resolved⟩ := resolves _ _ ran
    obtain ⟨count, last, result, bound, rounds, written, _⟩ := rounds forms _ resolved
    exact ⟨count, last, result, bound, ⟨forms, rounds⟩, _, written _ _ ran⟩
  · intro operands many
    obtain ⟨_, rounds⟩ := encode_rounds (farBranch operands) .empty
    obtain ⟨_, last, result, _, _, _, refused⟩ := rounds _ .empty rfl
    exact ⟨last, result, refused _ _ (farBranch_refused many)⟩

end Body
end ClassRename
