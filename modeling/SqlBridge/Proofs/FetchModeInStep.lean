import SqlBridge.Session.Script
import SqlBridge.Proofs.Along

/-!
# The fetch mode of the live handle

A statement knows the fetch mode that its handle is in: it is the last one sent to
that handle, or the one that every handle begins with.  A handle that takes the
place of another is sent the mode before anything else is asked of it.
-/

set_option autoImplicit false

namespace SqlBridge

open Transcript

variable {σ α : Type}

def Request.modeFor? (handle : Handle) : Request → Option FetchMode
  | .setFetchMode other mode => if other = handle then some mode else none
  | _ => none

theorem Request.modeFor?_setFetchMode (handle : Handle) (mode : FetchMode) :
    (Request.setFetchMode handle mode).modeFor? handle = some mode :=
  if_pos rfl

theorem Request.modeFor?_of_stage {request : Request} (handle : Handle)
    (other : request.stage ≠ .mode) : request.modeFor? handle = none := by
  cases request <;> first | rfl | exact absurd rfl other

namespace Transcript

def modesFor (handle : Handle) (events : List Event) : List FetchMode :=
  (requests events).filterMap (Request.modeFor? handle)

theorem modesFor_append (handle : Handle) (front back : List Event) :
    modesFor handle (front ++ back) = modesFor handle front ++ modesFor handle back := by
  rw [modesFor, requests_append, List.filterMap_append, modesFor, modesFor]

theorem modesFor_of_stage (handle : Handle) {events : List Event}
    (others : ∀ request ∈ requests events, request.stage ≠ .mode) :
    modesFor handle events = [] := by
  rw [modesFor, List.filterMap_eq_nil_iff]
  exact fun request asked => Request.modeFor?_of_stage handle (others request asked)

end Transcript

namespace Session

/-! ## Steps that send no mode -/

structure Modeless (engine : Engine σ) (session : Session σ) (events : List Event)
    (later : Session σ) : Prop extends Leads engine session events later where
  modeless : ∀ request ∈ requests events, request.stage ≠ .mode

variable (engine : Engine σ)

theorem modeless_notifyAll (notices : List Notice) (session : Session σ) :
    Step.Along (Modeless engine) (notifyAll notices) session := by
  rw [Step.Along, run_notifyAll]
  exact ⟨_, .note session _, by simp⟩

end Session

namespace Statement

/-! ## In step -/

/-- The mode last sent to the statement's handle is the statement's, or none was sent and the
statement's is the one that handles begin with. -/
def InStep (events : List Event) (statement : Statement) : Prop :=
  (modesFor statement.handle events).getLast? = some statement.fetchMode ∨
    modesFor statement.handle events = [] ∧ statement.fetchMode = .assoc

theorem InStep.of_same {events : List Event} {statement other : Statement}
    (inStep : InStep events statement) (handle : other.handle = statement.handle)
    (fetchMode : other.fetchMode = statement.fetchMode) : InStep events other := by
  rw [InStep, handle, fetchMode]
  exact inStep

theorem InStep.of_modeless {before events : List Event} {statement : Statement}
    (inStep : InStep before statement)
    (modeless : ∀ request ∈ requests events, request.stage ≠ .mode) :
    InStep (before ++ events) statement := by
  rw [InStep, modesFor_append, modesFor_of_stage _ modeless, List.append_nil]
  exact inStep

/-- What has gone before the last mode sent does not matter. -/
theorem InStep.of_last {events : List Event} {statement : Statement}
    (sent : modesFor statement.handle events = [statement.fetchMode]) (before : List Event) :
    InStep (before ++ events) statement := by
  left
  rw [modesFor_append, sent, List.getLast?_concat]

variable (engine : Engine σ)

/-- Whatever has happened before, a statement in step with it is in step with what follows. -/
structure StaysInStep (start : Statement × Session σ) (events : List Event)
    (stop : Statement × Session σ) : Prop extends Session.Leads engine start.2 events stop.2 where
  inStep : ∀ before, InStep before start.1 → InStep (before ++ events) stop.1

theorem chains_staysInStep : Chains (StaysInStep engine) where
  refl state := ⟨.refl state.2, fun before inStep => by rwa [List.append_nil]⟩
  trans := by
    intro start middle stop front back first second
    refine ⟨first.toLeads.trans second.toLeads, ?_⟩
    intro before inStep
    rw [← List.append_assoc]
    exact second.inStep _ (first.inStep before inStep)

variable {engine} {start : Statement × Session σ}

theorem staysInStep_of_modeless {step : Step (Session σ) α}
    (along : Step.Along (Session.Modeless engine) step start.2) :
    Step.Along (StaysInStep engine) (liftM step : Step (Statement × Session σ) α) start := by
  obtain ⟨events, way⟩ := along
  exact ⟨events, way.toLeads, fun before inStep => inStep.of_modeless way.modeless⟩

theorem StaysInStep.of_same {statement : Statement} (handle : statement.handle = start.1.handle)
    (fetchMode : statement.fetchMode = start.1.fetchMode) :
    StaysInStep engine start [] (statement, start.2) := by
  refine ⟨.refl start.2, ?_⟩
  intro before inStep
  rw [List.append_nil]
  exact inStep.of_same handle fetchMode

theorem staysInStep_changeOwn {update : Statement → Statement}
    (handle : (update start.1).handle = start.1.handle)
    (fetchMode : (update start.1).fetchMode = start.1.fetchMode) :
    Step.Along (StaysInStep engine) (Step.changeOwn update) start :=
  ⟨[], .of_same handle fetchMode⟩

variable (engine)

/-- The mode goes to the handle first, and nothing can fail before the statement takes it over. -/
theorem staysInStep_setFetchMode (mode : FetchMode) (start : Statement × Session σ) :
    Step.Along (StaysInStep engine) (setFetchMode engine mode) start := by
  refine ⟨[.exchange (.setFetchMode start.1.handle mode) ()],
    .ask start.2 (.setFetchMode start.1.handle mode), ?_⟩
  intro before _
  apply InStep.of_last
  exact List.filterMap_cons_some (Request.modeFor?_setFetchMode start.1.handle mode)

/-- A replacement begins without a mode and is sent the statement's at once. -/
theorem staysInStep_settlePrepare (start : Statement × Session σ) :
    Step.Along (StaysInStep engine) (settlePrepare engine) start := by
  cases flag : start.1.needsPrepare with
  | false =>
    rw [Step.Along, run_settlePrepare_of_idle engine flag]
    exact ⟨[], (chains_staysInStep engine).refl start⟩
  | true =>
    rcases run_settlePrepare_of_pending engine flag with
      ⟨failure, events, stop, ran, refused⟩ | ⟨events, stop, ran, replaced⟩
    · rw [Step.Along, ran]
      have modeless : ∀ request ∈ requests events, request.stage ≠ .mode := by
        rw [refused.prepares]
        simp [preparing, Request.stage]
      refine ⟨events, refused.toLeads, ?_⟩
      intro before inStep
      rw [refused.statement]
      exact inStep.of_modeless modeless
    · rw [Step.Along, ran]
      refine ⟨events, replaced.toLeads, ?_⟩
      intro before _
      obtain ⟨emissions, prepares⟩ := replaced.prepares
      apply InStep.of_last
      rw [prepares, replaced.statement, preparing, modesFor, requests_exchange, requests_exchange,
        requests_told]
      exact List.filterMap_cons_some (Request.modeFor?_setFetchMode _ start.1.fetchMode)

theorem admits_staysInStep : Admits engine (StaysInStep engine) where
  toChains := chains_staysInStep engine
  mark start := by
    apply StaysInStep.of_same
    · unfold requireInsecure
      split <;> rfl
    · unfold requireInsecure
      split <;> rfl
  settle := staysInStep_settlePrepare engine
  setMode := staysInStep_setFetchMode engine
  ask request kind statement session := by
    refine ⟨.ask session request, ?_⟩
    intro before inStep
    apply inStep.of_modeless
    intro asked listed
    rw [List.mem_singleton.mp listed]
    rcases kind with kind | kind <;> simp [kind]

theorem modeless_runHandle (handle : Handle) (supplied : Option ParamList) (session : Session σ) :
    Step.Along (Session.Modeless engine) (runHandle engine handle supplied) session := by
  obtain ⟨answer, back, passes, columns⟩ := runHandle_passes engine handle supplied session
  refine ⟨_, passes.toLeads, ?_⟩
  intro request asked
  rcases List.mem_cons.mp asked with rfl | later
  · simp [Request.stage]
  · have stage : request.stage = .columns := columns request later
    simp [stage]

theorem staysInStep_runReady (arguments : ParamList) (options : QueryOptions)
    (start : Statement × Session σ) :
    Step.Along (StaysInStep engine) (runReady engine arguments options) start := by
  have chains := chains_staysInStep engine
  apply Step.Along.bind chains ((admits_staysInStep engine).applyFetchMode options.mode? start)
  intro _ moded _
  apply Step.Along.bind chains (staysInStep_changeOwn rfl rfl)
  intro _ cleared _
  apply Step.Along.own chains
  apply Step.Along.bind chains (staysInStep_of_modeless (modeless_runHandle engine _ _ _))
  intro columns ran _
  apply Step.Along.bind chains (staysInStep_of_modeless (Session.modeless_notifyAll engine _ _))
  intro _ noted _
  apply Step.Along.bind chains (staysInStep_changeOwn rfl rfl)
  intro _ shaped _
  exact .pure chains true

/-! ## Every call -/

theorem staysInStep_step (call : Call) (start : Statement × Session σ) :
    Step.Along (StaysInStep engine) (call.step engine) start := by
  cases call with
  | execute arguments options =>
    have settles := (admits_staysInStep engine).settleUnless options.alreadyPrepared start
    rw [Call.step, execute_eq]
    apply Step.Along.bind (chains_staysInStep engine) settles
    intro _ settled _
    exact staysInStep_runReady engine arguments options settled
  | _ => exact (admits_staysInStep engine).step (by simp) start

theorem staysInStep_after (calls : List Call) (start : Statement × Session σ) :
    ∃ events, StaysInStep engine start events (after engine calls start) := by
  have chains := chains_staysInStep engine
  induction calls generalizing start with
  | nil => exact ⟨[], chains.refl start⟩
  | cons call rest ih =>
    obtain ⟨front, first⟩ := staysInStep_step engine call start
    obtain ⟨back, others⟩ := ih ((call.step engine).run start).2
    exact ⟨front ++ back, chains.trans first others⟩

/-- After any calls, failed ones included, the statement's mode is that of the handle in use. -/
theorem after_inStep {sql : String} {options : PrepareOptions} {session opened : Session σ}
    {statement : Statement}
    (prepared : (prepare engine sql options).run session = (.ok statement, opened))
    (calls : List Call) :
    InStep ((after engine calls (statement, opened)).2.since session)
      (after engine calls (statement, opened)).1 := by
  obtain ⟨handle, answer, later, ran, passes⟩ := prepare_passes engine sql options session
  rw [prepared] at ran
  cases answer with
  | error failure => cases ran
  | ok _ =>
    cases ran
    obtain ⟨events, stays⟩ :=
      staysInStep_after engine calls ({ handle := handle, prepareOptions := options }, opened)
    rw [(passes.toLeads.trans stays.toLeads).since_eq]
    exact stays.inStep _ (.inr ⟨rfl, rfl⟩)

/-- The engine refuses the first replacement, and the second run of the other. -/
def reluctant : Session Script.World where
  state := { handles := [{}, { prepareFailure := some (.other "busy") },
    { runs := [{}, { failed := some {} }] }] }

/-- The refused execution does not come to send its mode; the failed run comes after its own. -/
theorem after_inStep_reluctant :
    let engine := Script.engine {}
    let opened := ((prepare engine "EXEC report" {}).run reluctant).2
    let opening : Statement × Session Script.World := (⟨⟨0⟩, {}, .assoc, false, [], [], []⟩, opened)
    let last := after engine [.setFetchMode .num, .requireInsecure,
      .execute .empty { fetch := some (.record "Row") }, .execute .empty {},
      .execute .empty { fetch := some (.mode .keyPair) }] opening
    (prepare engine "EXEC report" {}).run reluctant = (.ok opening.1, opened) ∧
      last.1.handle = ⟨2⟩ ∧ last.1.fetchMode = .keyPair ∧
      modesFor ⟨0⟩ (last.2.since reluctant) = [.num] ∧
      modesFor ⟨2⟩ (last.2.since reluctant) = [.num, .keyPair] ∧
      InStep (last.2.since reluctant) last.1 := by
  intro engine opened opening last
  have prepared : (prepare engine "EXEC report" {}).run reluctant = (.ok opening.1, opened) := rfl
  exact ⟨prepared, by decide +kernel, by decide +kernel, by decide +kernel, by decide +kernel,
    after_inStep engine prepared _⟩

end Statement

end SqlBridge
