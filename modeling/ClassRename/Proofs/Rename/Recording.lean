import ClassRename.Proofs.ClassFile.Writing
import ClassRename.Rename.Session

namespace ClassRename

namespace Effects
section View
variable {ε σ τ α β : Type} {view : σ → τ}

-- On states that look alike the action gives the same, and leaves states that look alike.
def SeesOnly (view : σ → τ) (action : EStateM ε σ α) : Prop :=
  ∀ before other value after, view before = view other → action before = .ok value after →
    ∃ later, action other = .ok value later ∧ view after = view later

theorem seesOnly_pure (value : α) : SeesOnly view (pure value : EStateM ε σ α) := by
  intro before other found after alike ran
  obtain ⟨rfl, rfl⟩ := run_pure_iff.mp ran
  exact ⟨other, rfl, alike⟩

theorem seesOnly_throw (error : ε) : SeesOnly view (throw error : EStateM ε σ α) := by
  intro before other found after alike ran
  cases ran

theorem SeesOnly.bind {first : EStateM ε σ α} {second : α → EStateM ε σ β}
    (one : SeesOnly view first) (others : ∀ value, SeesOnly view (second value)) :
    SeesOnly view (first >>= second) := by
  intro before other value after alike ran
  obtain ⟨found, middle, began, ended⟩ := run_bind_iff.mp ran
  obtain ⟨between, begins, alike⟩ := one _ _ _ _ alike began
  obtain ⟨later, ends, alike⟩ := others _ _ _ _ _ alike ended
  exact ⟨later, run_bind_iff.mpr ⟨found, between, begins, ends⟩, alike⟩

theorem SeesOnly.mapM {action : α → EStateM ε σ β} (each : ∀ item, SeesOnly view (action item))
    (items : List α) : SeesOnly view (items.mapM action) := by
  induction items with
  | nil => exact seesOnly_pure []
  | cons item rest ih =>
    rw [List.mapM_cons]
    exact (each item).bind fun _ => ih.bind fun _ => seesOnly_pure _

theorem SeesOnly.get {next : σ → EStateM ε σ α}
    (through : ∀ first second, view first = view second → next first = next second)
    (each : ∀ state, SeesOnly view (next state)) :
    SeesOnly view ((get : EStateM ε σ σ) >>= next) := by
  intro before other value after alike ran
  obtain ⟨later, found, same⟩ := each before before other value after alike ran
  rw [through before other alike] at found
  exact ⟨later, found, same⟩

end View
end Effects
open Effects

namespace Logging

def Blind (action : Logging α) : Prop := SeesOnly (fun _ => ()) action

theorem record_blind (event : Event) : Blind (record event) := by
  intro before other value after _ ran
  cases ran
  exact ⟨_, rfl, rfl⟩

theorem lift_blind (result : Except Error α) : Blind (lift result) := by
  cases result with
  | ok value => exact seesOnly_pure value
  | error error => exact seesOnly_throw error

end Logging

theorem Attribute.remap_blind (map : OffsetMap) (name : String) (entry : Attribute) :
    Logging.Blind (entry.remap map name) := by
  have remapped (reader : Scan Bytes) : Logging.Blind
      (do return ⟨entry.name, ← Logging.lift (reader.run entry.data)⟩ : Logging Attribute) :=
    (Logging.lift_blind _).bind fun _ => seesOnly_pure _
  unfold remap
  split
  · exact remapped _
  · exact remapped _
  · exact remapped _
  · exact remapped _
  · exact seesOnly_throw _
  · exact seesOnly_throw _
  · exact (Logging.record_blind _).bind fun _ => seesOnly_pure _

theorem Code.relocate_blind (code : Code) (pool : Pool) (old : Offsets) (body : EncodedBody) :
    Logging.Blind (code.relocate pool old body) := by
  have carried (map : OffsetMap) (entry : Attribute) : Logging.Blind (do
      let name ← Logging.lift (pool.encodedText entry.name)
      entry.remap map (name.text?.getD "")) :=
    (Logging.lift_blind _).bind fun _ => Attribute.remap_blind _ _ _
  refine (Logging.lift_blind _).bind fun map => (Logging.record_blind _).bind fun _ => ?_
  refine (Logging.lift_blind _).bind fun handlers => ?_
  exact (SeesOnly.mapM (carried map) _).bind fun _ => seesOnly_pure _

namespace Writing

theorem intern_seesOnly (action : Interning α) : SeesOnly Workspace.pool (intern action) := by
  intro before other value after alike ran
  obtain ⟨later, found, rfl⟩ := intern_ok_iff.mp ran
  rw [alike] at found
  exact ⟨⟨later, other.log⟩, intern_ok_iff.mpr ⟨later, found, rfl⟩, rfl⟩

theorem logging_seesOnly {action : Logging α} (blind : action.Blind) :
    SeesOnly Workspace.pool (logging action) := by
  intro before other value after alike ran
  obtain ⟨log, found, rfl⟩ := logging_ok_iff.mp ran
  obtain ⟨later, again, _⟩ := blind _ other.log _ _ rfl found
  exact ⟨⟨other.pool, later⟩, logging_ok_iff.mpr ⟨later, again, rfl⟩, alike⟩

end Writing

theorem Code.toBytes_seesOnly (code : Code) : SeesOnly Workspace.pool code.toBytes := by
  refine (Writing.intern_seesOnly _).bind fun name => (Writing.intern_seesOnly _).bind fun body => ?_
  dsimp only
  split
  · exact (seesOnly_pure _).bind fun _ => seesOnly_pure _
  · rename_i old _
    refine SeesOnly.get (fun first second alike => by rw [alike]) fun state => ?_
    have relocated := Writing.logging_seesOnly (code.relocate_blind state.pool old body)
    exact relocated.bind fun _ => seesOnly_pure _

theorem MethodAttribute.toBytes_seesOnly (item : MethodAttribute) :
    SeesOnly Workspace.pool item.toBytes := by
  cases item with
  | code body => exact body.toBytes_seesOnly
  | other entry => exact seesOnly_pure _

theorem Method.toBytes_seesOnly (method : Method) : SeesOnly Workspace.pool method.toBytes := by
  refine (Writing.intern_seesOnly _).bind fun _ => (Writing.intern_seesOnly _).bind fun _ => ?_
  exact (SeesOnly.mapM MethodAttribute.toBytes_seesOnly _).bind fun _ => seesOnly_pure _

theorem ClassFile.toBytes_blind (file : ClassFile) : Logging.Blind file.toBytes := by
  intro before other value after _ ran
  unfold toBytes at ran ⊢
  cases wrote : file.methods.mapM Method.toBytes ⟨file.pool, before⟩ with
  | error error later =>
    rw [wrote] at ran
    cases ran
  | ok methods later =>
    obtain ⟨again, found, alike⟩ := SeesOnly.mapM Method.toBytes_seesOnly file.methods
      ⟨file.pool, before⟩ ⟨file.pool, other⟩ methods later rfl wrote
    rw [wrote] at ran
    rw [found]
    cases ran
    exact ⟨again.log, by rw [alike], rfl⟩

namespace Session

theorem rewriteSelected_blind (session : Session) (file : ClassFile) :
    (session.rewriteSelected file).Blind := by
  unfold rewriteSelected
  dsimp only
  split
  · exact seesOnly_pure _
  · exact (Logging.record_blind _).bind fun _ => seesOnly_pure _

theorem rewriteBytes_blind (session : Session) (data : Bytes) :
    (session.rewriteBytes data).Blind := by
  refine (Logging.lift_blind _).bind fun peeked => ?_
  cases peeked with
  | none => exact (Logging.record_blind _).bind fun _ => seesOnly_pure _
  | some name =>
    dsimp only
    split
    · refine (Logging.lift_blind _).bind fun file => ?_
      refine (session.rewriteSelected_blind file).bind fun outcome => ?_
      cases outcome with
      | skipped => exact seesOnly_pure _
      | unchanged => exact seesOnly_pure _
      | rewritten renamed stats => exact renamed.toBytes_blind.bind fun _ => seesOnly_pure _
    · exact seesOnly_pure _

-- Classes that each can be rewritten on their own can be rewritten together.
theorem rewriteBatch_total {session : Session} {inputs : List (Labelled Bytes)}
    (each : ∀ input ∈ inputs, ∃ outcome after,
      session.rewriteBytes input.content #[] = .ok outcome after) (before : Log) :
    ∃ outputs after, session.rewriteBatch inputs before = .ok outputs after := by
  unfold rewriteBatch
  induction inputs generalizing before with
  | nil => exact ⟨[], before, rfl⟩
  | cons input rest ih =>
    obtain ⟨first, others⟩ := List.forall_mem_cons.mp each
    obtain ⟨outcome, _, alone⟩ := first
    obtain ⟨middle, came, _⟩ := session.rewriteBytes_blind _ #[] before _ _ rfl alone
    obtain ⟨outputs, after, remaining⟩ := ih others middle
    refine ⟨⟨input.name, outcome⟩ :: outputs, after, ?_⟩
    simp only [List.mapM_cons, run_bind_iff, run_pure_iff]
    refine ⟨_, middle, ?_, outputs, after, remaining, rfl, rfl⟩
    rw [rewriteLabelled, came]

end Session
end ClassRename
