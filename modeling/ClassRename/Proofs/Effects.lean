import Mathlib.Data.List.Forall2

namespace ClassRename.Effects

theorem mapM_some_iff {change : α → Option β} :
    items.mapM change = some values ↔
      List.Forall₂ (fun item value => change item = some value) items values := by
  induction items generalizing values with
  | nil => simp [eq_comm]
  | cons item rest ih =>
    simp only [List.mapM_cons, Option.bind_eq_bind, Option.bind_eq_some_iff, ih]
    constructor
    · intro stated
      rcases stated with ⟨value, found, others, related, same⟩
      cases same
      exact .cons found related
    · intro related
      cases related with
      | cons found related => exact ⟨_, found, _, related, rfl⟩

theorem bind_ok_iff {first : Except ε α} {second : α → Except ε β} :
    (first >>= second) = .ok value ↔ ∃ found, first = .ok found ∧ second found = .ok value := by
  cases first with
  | error error =>
    constructor
    · intro impossible
      cases impossible
    · intro stated
      rcases stated with ⟨_, impossible, _⟩
      cases impossible
  | ok found =>
    constructor
    · intro next
      exact ⟨found, rfl, next⟩
    · intro stated
      rcases stated with ⟨_, same, next⟩
      cases same
      exact next

theorem bind_error_iff {first : Except ε α} {second : α → Except ε β} :
    (first >>= second) = .error error ↔
      first = .error error ∨ ∃ found, first = .ok found ∧ second found = .error error := by
  cases first with
  | error given =>
    constructor
    · intro stopped
      cases stopped
      exact .inl rfl
    · intro stated
      rcases stated with same | ⟨_, impossible, _⟩
      · cases same
        rfl
      · cases impossible
  | ok found =>
    constructor
    · intro next
      exact .inr ⟨found, rfl, next⟩
    · intro stated
      rcases stated with impossible | ⟨_, same, next⟩
      · cases impossible
      · cases same
        exact next

theorem pure_ok_iff {given value : α} : (pure given : Except ε α) = .ok value ↔ given = value := by
  constructor
  · intro same
    cases same
    rfl
  · intro same
    subst same
    rfl

theorem toOption_some_iff {result : Except ε α} :
    result.toOption = some value ↔ result = .ok value := by
  cases result <;> simp [Except.toOption]

theorem mapM_ok_iff {change : α → Except ε β} :
    items.mapM change = .ok values ↔
      List.Forall₂ (fun item value => change item = .ok value) items values := by
  induction items generalizing values with
  | nil =>
    rw [List.mapM_nil, pure_ok_iff]
    simp [eq_comm]
  | cons item rest ih =>
    simp only [List.mapM_cons, bind_ok_iff, pure_ok_iff, ih]
    constructor
    · intro stated
      rcases stated with ⟨value, found, others, related, rfl⟩
      exact .cons found related
    · intro related
      cases related with
      | cons found related => exact ⟨_, found, _, related, rfl⟩

theorem mapM_error {change : α → Except ε β} {items : List α}
    (stopped : items.mapM change = .error error) :
    ∃ item ∈ items, change item = .error error := by
  induction items with
  | nil => cases stopped
  | cons item rest ih =>
    rw [List.mapM_cons, bind_error_iff] at stopped
    rcases stopped with here | ⟨_, _, behind⟩
    · exact ⟨item, List.mem_cons_self, here⟩
    · rcases bind_error_iff.mp behind with later | ⟨_, _, impossible⟩
      · obtain ⟨found, member, same⟩ := ih later
        exact ⟨found, List.mem_cons_of_mem _ member, same⟩
      · cases impossible

theorem forall₂_image_iff {back : β → α} {Inside : β → Prop} {items : List α} {values : List β} :
    List.Forall₂ (fun item value => item = back value ∧ Inside value) items values ↔
      items = values.map back ∧ ∀ value ∈ values, Inside value := by
  induction values generalizing items with
  | nil => simp
  | cons value rest ih =>
    cases items with
    | nil => simp
    | cons item others =>
      rw [List.forall₂_cons, ih, List.map_cons, List.cons.injEq, List.forall_mem_cons]
      constructor
      · intro stated
        rcases stated with ⟨⟨head, inside⟩, tail, all⟩
        exact ⟨⟨head, tail⟩, inside, all⟩
      · intro stated
        rcases stated with ⟨⟨head, tail⟩, inside, all⟩
        exact ⟨⟨head, inside⟩, tail, all⟩

theorem forall₂_map_iff {change : α → β} {Inside : α → Prop} {items : List α} {values : List β} :
    List.Forall₂ (fun item value => Inside item ∧ value = change item) items values ↔
      (∀ item ∈ items, Inside item) ∧ values = items.map change := by
  rw [List.forall₂_and_left, eq_comm, ← List.forall₂_eq_eq_eq, List.forall₂_map_left_iff]
  simp only [eq_comm]

theorem map_eq_of_forall₂ {f : α → γ} {g : β → γ} {lefts : List α} {rights : List β}
    (related : List.Forall₂ (fun left right => g right = f left) lefts rights) :
    rights.map g = lefts.map f := by
  rw [← List.forall₂_eq_eq_eq, List.forall₂_map_left_iff, List.forall₂_map_right_iff]
  exact related.flip

theorem forall₂_trans {R : α → β → Prop} {S : β → γ → Prop} {T : α → γ → Prop}
    (compose : ∀ left middle right, R left middle → S middle right → T left right)
    {lefts : List α} {middles : List β} {rights : List γ}
    (first : List.Forall₂ R lefts middles) (second : List.Forall₂ S middles rights) :
    List.Forall₂ T lefts rights := by
  induction first generalizing rights with
  | nil =>
    cases second
    exact .nil
  | cons one _ ih =>
    cases second with
    | cons other others => exact .cons (compose _ _ _ one other) (ih others)

theorem forall₂_choose {R : α → γ → Prop} {S : β → γ → Prop} {lefts : List α} {rights : List β}
    (related : List.Forall₂ (fun left right => ∃ value, R left value ∧ S right value) lefts rights) :
    ∃ values, List.Forall₂ R lefts values ∧ List.Forall₂ S rights values := by
  induction related with
  | nil => exact ⟨[], .nil, .nil⟩
  | cons first _ ih =>
    obtain ⟨value, one, other⟩ := first
    obtain ⟨values, ones, others⟩ := ih
    exact ⟨value :: values, .cons one ones, .cons other others⟩

theorem forall₂_exists {R : α → β → Prop} {items : List α}
    (each : ∀ item ∈ items, ∃ value, R item value) : ∃ values, List.Forall₂ R items values := by
  induction items with
  | nil => exact ⟨[], .nil⟩
  | cons item rest ih =>
    obtain ⟨first, others⟩ := List.forall_mem_cons.mp each
    obtain ⟨value, related⟩ := first
    obtain ⟨values, all⟩ := ih others
    exact ⟨value :: values, .cons related all⟩

theorem forall₂_partner {R : α → β → Prop} (related : List.Forall₂ R lefts rights)
    (member : right ∈ rights) : ∃ left ∈ lefts, R left right := by
  induction related with
  | nil => cases member
  | cons first _ ih =>
    rcases List.mem_cons.mp member with rfl | behind
    · exact ⟨_, List.mem_cons_self, first⟩
    · obtain ⟨left, present, found⟩ := ih behind
      exact ⟨left, List.mem_cons_of_mem _ present, found⟩

theorem forall₂_zip_iff {R : β → γ → Prop} {firsts : List α} {seconds : List β} {values : List γ}
    (same : firsts.length = seconds.length) :
    List.Forall₂ (fun pair value => R pair.2 value) (firsts.zip seconds) values ↔
      List.Forall₂ R seconds values := by
  rw [← List.forall₂_map_left_iff (f := Prod.snd) (R := R), List.map_snd_zip (Nat.le_of_eq same.symm)]

theorem map_self {change : α → α} {items : List α} (same : ∀ item ∈ items, change item = item) :
    items.map change = items :=
  (List.map_congr_left same).trans (List.map_id' items)

theorem eq_of_mem_zip_self {items : List α} {pair : α × α} (member : pair ∈ items.zip items) :
    pair.1 = pair.2 := by
  obtain ⟨position, inside, rfl⟩ := List.getElem_of_mem member
  rw [List.getElem_zip]

theorem forall₂_iff_forall {R : α → β → Prop} {P : α → Prop} {items : List α} {values : List β}
    (known : List.Forall₂ (fun item value => R item value ↔ P item) items values) :
    List.Forall₂ R items values ↔ ∀ item ∈ items, P item := by
  induction known with
  | nil => simp
  | cons first _ ih => rw [List.forall₂_cons, List.forall_mem_cons, first, ih]

section State
variable {ε σ α β : Type}

@[simp] theorem bind_apply (first : EStateM ε σ α) (second : α → EStateM ε σ β) (state : σ) :
    (first >>= second) state =
      match first state with
      | .ok value after => second value after
      | .error error after => .error error after := by
  change EStateM.bind first second state = _
  unfold EStateM.bind
  cases first state <;> rfl

@[simp] theorem pure_apply (value : α) (state : σ) :
    (pure value : EStateM ε σ α) state = .ok value state := rfl

@[simp] theorem map_apply (change : α → β) (action : EStateM ε σ α) (state : σ) :
    (change <$> action) state =
      match action state with
      | .ok value after => .ok (change value) after
      | .error error after => .error error after := by
  change EStateM.map change action state = _
  unfold EStateM.map
  cases action state <;> rfl

theorem run_bind_iff {first : EStateM ε σ α} {second : α → EStateM ε σ β} {before after : σ} :
    (first >>= second) before = .ok value after ↔
      ∃ found middle, first before = .ok found middle ∧ second found middle = .ok value after := by
  rw [bind_apply]
  cases first before <;> simp

theorem run_pure_iff {given value : α} {before after : σ} :
    (pure given : EStateM ε σ α) before = .ok value after ↔ given = value ∧ before = after := by
  constructor
  · intro returned
    cases returned
    exact ⟨rfl, rfl⟩
  · intro stated
    rcases stated with ⟨rfl, rfl⟩
    rfl

theorem run_map_iff {change : α → β} {action : EStateM ε σ α} {before after : σ} :
    (change <$> action) before = .ok value after ↔
      ∃ found, action before = .ok found after ∧ change found = value := by
  rw [map_apply]
  cases action before with
  | ok found middle =>
    constructor
    · intro mapped
      cases mapped
      exact ⟨found, rfl, rfl⟩
    · intro stated
      rcases stated with ⟨_, same, rfl⟩
      cases same
      rfl
  | error error middle => simp

theorem run_map_error_iff {change : α → β} {action : EStateM ε σ α} {before after : σ} :
    (change <$> action) before = .error error after ↔ action before = .error error after := by
  rw [map_apply]
  cases action before <;> simp

theorem run_bind_error_iff {first : EStateM ε σ α} {second : α → EStateM ε σ β}
    {before after : σ} :
    (first >>= second) before = .error error after ↔
      first before = .error error after ∨
        ∃ found middle, first before = .ok found middle ∧ second found middle = .error error after := by
  rw [bind_apply]
  cases first before <;> simp

-- A traversal whose steps keep an invariant, move the state forward and relate item and
-- result in a way that later states keep.
theorem mapM_run {action : α → EStateM ε σ β} (Valid : σ → Prop) (Later : σ → σ → Prop)
    (Ready : α → σ → Prop) (Done : α → β → σ → Prop)
    (refl : ∀ state, Later state state)
    (trans : ∀ first second third, Later first second → Later second third → Later first third)
    (ready : ∀ item before after, Ready item before → Later before after → Ready item after)
    (done : ∀ item value before after, Done item value before → Later before after →
      Done item value after)
    (step : ∀ item before value after, Valid before → Ready item before →
      action item before = .ok value after →
      Valid after ∧ Later before after ∧ Done item value after)
    {items : List α} {before after : σ} {values : List β}
    (valid : Valid before) (prepared : ∀ item ∈ items, Ready item before)
    (ran : items.mapM action before = .ok values after) :
    Valid after ∧ Later before after ∧
      List.Forall₂ (fun item value => Done item value after) items values := by
  induction items generalizing before values with
  | nil =>
    obtain ⟨rfl, rfl⟩ := run_pure_iff.mp ran
    exact ⟨valid, refl _, .nil⟩
  | cons item rest ih =>
    simp only [List.mapM_cons, run_bind_iff, run_pure_iff] at ran
    obtain ⟨value, middle, first, others, _, tail, rfl, rfl⟩ := ran
    obtain ⟨kept, moved, related⟩ :=
      step _ _ _ _ valid (prepared item List.mem_cons_self) first
    have remaining : ∀ other ∈ rest, Ready other middle := fun other member =>
      ready _ _ _ (prepared other (List.mem_cons_of_mem _ member)) moved
    obtain ⟨last, further, all⟩ := ih kept remaining tail
    exact ⟨last, trans _ _ _ moved further, .cons (done _ _ _ _ related further) all⟩

theorem mapM_each {action : α → EStateM ε σ β} {Done : α → β → Prop}
    (step : ∀ item before value after, action item before = .ok value after → Done item value)
    {before after : σ} {items : List α} {values : List β}
    (ran : items.mapM action before = .ok values after) : List.Forall₂ Done items values := by
  have run := mapM_run (fun _ => True) (fun _ _ => True) (fun _ _ => True)
    (fun item value _ => Done item value)
    (fun _ => trivial) (fun _ _ _ _ _ => trivial) (fun _ _ _ _ _ => trivial)
    (fun _ _ _ _ related _ => related)
    (fun item before value after _ _ ran => ⟨trivial, trivial, step item before value after ran⟩)
    trivial (fun _ _ => trivial) ran
  exact run.2.2

theorem mapM_length {action : α → EStateM ε σ β} {before after : σ} {items : List α} {values : List β}
    (ran : items.mapM action before = .ok values after) : values.length = items.length := by
  have each : List.Forall₂ (fun _ _ => True) items values := mapM_each (fun _ _ _ _ _ => trivial) ran
  exact each.length_eq.symm

theorem mapM_still {action : α → EStateM ε σ β} {state : σ} {items : List α} {values : List β}
    (still : List.Forall₂ (fun item value => action item state = .ok value state) items values) :
    items.mapM action state = .ok values state := by
  induction still with
  | nil => rfl
  | @cons item value _ _ first _ ih =>
    rw [List.mapM_cons, bind_apply, first]
    dsimp only
    rw [bind_apply, ih]
    rfl

theorem mapM_still_iff {action : α → EStateM ε σ β} {Done : α → β → Prop}
    (step : ∀ {item value before after},
      action item before = .ok value after ↔ Done item value ∧ after = before)
    {items : List α} {values : List β} {before after : σ} :
    items.mapM action before = .ok values after ↔ List.Forall₂ Done items values ∧ after = before := by
  constructor
  · intro ran
    have run := mapM_run (fun state => state = before) (fun _ _ => True) (fun _ _ => True)
      (fun item value _ => Done item value)
      (fun _ => trivial) (fun _ _ _ _ _ => trivial) (fun _ _ _ _ _ => trivial)
      (fun _ _ _ _ related _ => related)
      (fun item middle value later same _ ran =>
        ⟨(step.mp ran).2.trans same, trivial, (step.mp ran).1⟩)
      rfl (fun _ _ => trivial) ran
    exact ⟨run.2.2, run.1⟩
  · intro stated
    rcases stated with ⟨related, rfl⟩
    exact mapM_still (related.imp fun _ _ done => step.mpr ⟨done, rfl⟩)

end State

-- A walk that changes each item and folds into the state what it finds there.
theorem mapM_fold {σ α β γ : Type} {step : α → StateM σ β} {change : α → β} {parts : α → List γ}
    {fold : σ → γ → σ}
    (each : ∀ item state, (step item).run state = (change item, (parts item).foldl fold state))
    (items : List α) (state : σ) :
    (items.mapM step).run state = (items.map change, (items.flatMap parts).foldl fold state) := by
  induction items generalizing state with
  | nil => rfl
  | cons item rest ih =>
    have first := each item state
    have behind := ih ((parts item).foldl fold state)
    rw [List.mapM_cons, StateT.run_bind, first]
    change (rest.mapM step >>= fun others => pure (change item :: others)).run _ = _
    rw [StateT.run_bind, behind, List.map_cons, List.flatMap_cons, List.foldl_append]
    rfl

end ClassRename.Effects
