import SqlBridge.Session.Call
import SqlBridge.Proofs.HandleUse

/-!
# What a call does

A call that needs the handle first has a pending replacement made; if that is
refused, the call ends there and the statement is as it was.  What comes after is
the same whether or not there was a replacement, and keeps to the handle.
-/

set_option autoImplicit false

namespace SqlBridge.Statement

open Transcript

variable {σ α β : Type}

/-! ## Steps that keep to the handle -/

structure Retains (engine : Engine σ) (start : Statement × Session σ) (events : List Event)
    (stop : Statement × Session σ) : Prop
    extends Session.KeepsTo engine start.1.handle start.2 events stop.2 where
  handle : stop.1.handle = start.1.handle
  prepareOptions : stop.1.prepareOptions = start.1.prepareOptions
  needsPrepare : stop.1.needsPrepare = start.1.needsPrepare

def Retaining (engine : Engine σ) (step : Step (Statement × Session σ) α)
    (start : Statement × Session σ) : Prop :=
  ∃ events, Retains engine start events (step.run start).2

namespace Retaining

variable {engine : Engine σ} {start : Statement × Session σ}

theorem of_confined {step : Step (Session σ) α}
    (confined : Session.Confined engine start.1.handle step) :
    Retaining engine (liftM step : Step (Statement × Session σ) α) start := by
  obtain ⟨events, kept⟩ := confined start.2
  exact ⟨events, kept, rfl, rfl, rfl⟩

theorem pure (answer : α) :
    Retaining engine (Pure.pure answer : Step (Statement × Session σ) α) start :=
  ⟨[], .refl start.2, rfl, rfl, rfl⟩

theorem changeOwn {update : Statement → Statement}
    (handle : (update start.1).handle = start.1.handle)
    (prepareOptions : (update start.1).prepareOptions = start.1.prepareOptions)
    (needsPrepare : (update start.1).needsPrepare = start.1.needsPrepare) :
    Retaining engine (Step.changeOwn update : Step (Statement × Session σ) Unit) start :=
  ⟨[], .refl start.2, handle, prepareOptions, needsPrepare⟩

theorem bind {step : Step (Statement × Session σ) α} {next : α → Step (Statement × Session σ) β}
    (first : Retaining engine step start)
    (second : ∀ answer stop, step.run start = (.ok answer, stop) →
      stop.1.handle = start.1.handle → Retaining engine (next answer) stop) :
    Retaining engine (step >>= next) start := by
  obtain ⟨front, kept⟩ := first
  unfold Retaining
  rw [Step.run_bind]
  rcases ran : step.run start with ⟨failure | answer, middle⟩
  · rw [ran] at kept
    exact ⟨front, kept⟩
  · rw [ran] at kept
    obtain ⟨back, last⟩ := second answer middle ran kept.handle
    have on := last.toKeepsTo
    rw [kept.handle] at on
    exact ⟨front ++ back, kept.toKeepsTo.trans on, last.handle.trans kept.handle,
      last.prepareOptions.trans kept.prepareOptions, last.needsPrepare.trans kept.needsPrepare⟩

/-- A step may go on with the statement as it is. -/
theorem own {next : Statement → Step (Statement × Session σ) β}
    (second : Retaining engine (next start.1) start) :
    Retaining engine (Step.own >>= next) start := by
  apply bind ⟨[], .refl start.2, rfl, rfl, rfl⟩
  intro answer stop read _
  cases read
  exact second

end Retaining

variable (engine : Engine σ)

theorem retaining_looking {step : Statement → Step (Session σ) α} {start : Statement × Session σ}
    (confined : Session.Confined engine start.1.handle (step start.1)) :
    Retaining engine (looking step) start :=
  .own (.of_confined confined)

theorem retaining_setFetchMode (mode : FetchMode) (start : Statement × Session σ) :
    Retaining engine (setFetchMode engine mode) start := by
  have asks : Session.Confined engine start.1.handle
      (Session.setFetchMode engine start.1.handle mode) := .ask rfl
  apply Retaining.own
  apply Retaining.bind (.of_confined asks)
  intro _ stop _ _
  exact .changeOwn rfl rfl rfl

theorem retaining_applyFetchMode (mode : Option FetchMode) (start : Statement × Session σ) :
    Retaining engine (applyFetchMode engine mode) start := by
  cases mode with
  | none => exact .pure ()
  | some mode => exact retaining_setFetchMode engine mode start

theorem retaining_fetchAllKeyed (keyIndex valueIndex : Nat) (start : Statement × Session σ) :
    Retaining engine (fetchAllKeyed engine keyIndex valueIndex) start := by
  apply Retaining.own
  apply Retaining.bind (.of_confined (.reading _))
  intro count counted _ sameHandle
  rw [← sameHandle]
  split
  · apply Retaining.bind (retaining_setFetchMode engine .keyPair counted)
    intro _ moded _ sameHandle
    have asks : Session.Confined engine moded.1.handle
        (Session.fetchKeyPairs engine moded.1.handle) := .bind (.ask rfl) .ofExcept
    rw [← sameHandle]
    apply Retaining.bind (.of_confined asks)
    intro pairs _ _ _
    exact .pure _
  · apply Retaining.bind (retaining_setFetchMode engine .num counted)
    intro _ moded _ sameHandle
    rw [← sameHandle]
    exact .of_confined (Session.confined_foldRows engine moded.1.handle _ _)

def runReady (arguments : ParamList) (options : QueryOptions) :
    Step (Statement × Session σ) Bool := do
  applyFetchMode engine options.mode?
  Step.changeOwn withoutResult
  let statement ← Step.own
  let columns ← runHandle engine statement.handle arguments.supplied?
  let visible := visiblePositions columns options.dropColumns
  Step.within (Session.notifyAll (hiddenNotices columns visible))
  Step.changeOwn (withResult columns visible)
  return true

theorem execute_eq (arguments : ParamList) (options : QueryOptions) :
    execute engine arguments options =
      settleUnless engine options.alreadyPrepared >>= fun _ => runReady engine arguments options :=
  rfl

theorem bindValue_eq (placeholder : String) (value : Value) :
    bindValue engine placeholder value = settlePrepare engine >>= fun _ =>
      looking fun statement => Session.bindValue engine statement.handle placeholder value := by
  rw [bindValue, bindingHandle, Step.bind_assoc]
  rfl

theorem retaining_runReady (arguments : ParamList) (options : QueryOptions)
    (start : Statement × Session σ) :
    Retaining engine (runReady engine arguments options) start := by
  apply Retaining.bind (retaining_applyFetchMode engine options.mode? start)
  intro _ moded _ _
  apply Retaining.bind (.changeOwn rfl rfl rfl)
  intro _ cleared _ _
  apply Retaining.own
  apply Retaining.bind (.of_confined (Session.confined_runHandle engine _ _))
  intro columns ran _ _
  apply Retaining.bind (.of_confined (.notifyAll _))
  intro _ noted _ _
  apply Retaining.bind (.changeOwn rfl rfl rfl)
  intro _ shaped _ _
  exact .pure true

/-! ## Settling -/

def preparing (start : Statement × Session σ) (answer : Except Failure Unit) : Event :=
  .exchange (.prepare ⟨start.2.prepared⟩ (engine.sql start.2.state start.1.handle)
    start.1.prepareOptions) answer

structure Refused (failure : Failure) (start : Statement × Session σ) (events : List Event)
    (stop : Statement × Session σ) : Prop
    extends Session.Leads engine start.2 events stop.2 where
  statement : stop.1 = start.1
  numbered : stop.2.prepared = start.2.prepared + 1
  prepares : events = [preparing engine start (.error failure)]

structure Replaced (start : Statement × Session σ) (events : List Event)
    (stop : Statement × Session σ) : Prop
    extends Session.Leads engine start.2 events stop.2 where
  statement : stop.1 = { start.1 with handle := ⟨start.2.prepared⟩, needsPrepare := false }
  numbered : stop.2.prepared = start.2.prepared + 1
  prepares : ∃ emissions, events = preparing engine start (.ok ()) ::
    .exchange (.setFetchMode ⟨start.2.prepared⟩ start.1.fetchMode) () :: told emissions

theorem run_settlePrepare_of_idle {start : Statement × Session σ}
    (idle : start.1.needsPrepare = false) :
    (settlePrepare engine).run start = (.ok (), start) := by
  rw [settlePrepare, Step.run_bind, Step.run_own]
  simp only [idle, Bool.false_eq_true, if_false, Step.run_pure]

theorem run_settlePrepare_of_pending {start : Statement × Session σ}
    (pending : start.1.needsPrepare = true) :
    (∃ failure events stop, (settlePrepare engine).run start = (.error failure, stop) ∧
        Refused engine failure start events stop) ∨
      ∃ events stop, (settlePrepare engine).run start = (.ok (), stop) ∧
        Replaced engine start events stop := by
  obtain ⟨later, ran, passes, numbered⟩ := Session.passes_prepare engine
    (engine.sql start.2.state start.1.handle) start.1.prepareOptions start.2
  rw [settlePrepare, Step.run_bind, Step.run_own]
  simp only [pending, if_true, replacement, Step.run_bind, Step.run_lift, Session.run_reading]
  generalize (engine.answer (.prepare ⟨start.2.prepared⟩ (engine.sql start.2.state start.1.handle)
    start.1.prepareOptions) start.2.state).1 = answer at ran passes
  cases answer with
  | error failure =>
    simp only [ran, Except.map]
    exact .inl ⟨failure, _, (start.1, later), rfl, passes.toLeads, rfl, numbered, rfl⟩
  | ok _ =>
    simp only [ran, Except.map]
    have moded := passes.toLeads.trans
      (.ask later (.setFetchMode ⟨start.2.prepared⟩ start.1.fetchMode))
    exact .inr ⟨_, _, rfl, moded.trans (.note _ [.reported (.reprepared _)]), rfl, numbered,
      [.reported (.reprepared _)], rfl⟩

/-! ## Calls -/

/-- What a call does.  Only a mark, the call that requires an insecure handle, can set the
pending flag, and only a call that settles can clear it. -/
inductive Called (call : Call) (start : Statement × Session σ) :
    Except Failure call.Answer → List Event → Statement × Session σ → Prop where
  | marked {outcome : Except Failure call.Answer} (mark : call = .requireInsecure) :
      Called call start outcome [] (start.1.requireInsecure, start.2)
  | kept {outcome : Except Failure call.Answer} {events : List Event}
      {stop : Statement × Session σ} (unmarked : call ≠ .requireInsecure)
      (idle : call.settles = true → start.1.needsPrepare = false)
      (retains : Retains engine start events stop) : Called call start outcome events stop
  | refused {failure : Failure} {events : List Event} {stop : Statement × Session σ}
      (settles : call.settles = true) (pending : start.1.needsPrepare = true)
      (refused : Refused engine failure start events stop) :
      Called call start (.error failure) events stop
  | replaced {outcome : Except Failure call.Answer} {front back : List Event}
      {middle stop : Statement × Session σ}
      (settles : call.settles = true) (pending : start.1.needsPrepare = true)
      (replaced : Replaced engine start front middle) (retains : Retains engine middle back stop) :
      Called call start outcome (front ++ back) stop

variable {engine} {call : Call}

theorem Called.of_retaining {start : Statement × Session σ} (unmarked : call ≠ .requireInsecure)
    (idle : call.settles = false) (retaining : Retaining engine (call.step engine) start) :
    ∃ events, Called engine call start ((call.step engine).run start).1 events
      ((call.step engine).run start).2 := by
  obtain ⟨events, retains⟩ := retaining
  refine ⟨events, .kept unmarked (fun settles => ?_) retains⟩
  rw [idle] at settles
  cases settles

/-- A call that settles does the rest of its work on the handle that is then there. -/
theorem Called.of_settling {ready : Step (Statement × Session σ) call.Answer}
    (settles : call.settles = true)
    (step : call.step engine = settlePrepare engine >>= fun _ => ready)
    (retaining : ∀ middle, Retaining engine ready middle) (start : Statement × Session σ) :
    ∃ events, Called engine call start ((call.step engine).run start).1 events
      ((call.step engine).run start).2 := by
  have unmarked : call ≠ .requireInsecure := by
    intro mark
    rw [mark] at settles
    cases settles
  rw [step]
  cases flag : start.1.needsPrepare with
  | false =>
    obtain ⟨events, retains⟩ := retaining start
    rw [Step.run_bind_ok (run_settlePrepare_of_idle engine flag)]
    exact ⟨events, .kept unmarked (fun _ => flag) retains⟩
  | true =>
    rcases run_settlePrepare_of_pending engine flag with
      ⟨failure, events, stop, ran, refused⟩ | ⟨front, middle, ran, replaced⟩
    · rw [Step.run_bind_error ran]
      exact ⟨events, .refused settles flag refused⟩
    · obtain ⟨back, retains⟩ := retaining middle
      rw [Step.run_bind_ok ran]
      exact ⟨front ++ back, .replaced settles flag replaced retains⟩

variable (engine)

theorem step_called (call : Call) (start : Statement × Session σ) :
    ∃ events, Called engine call start ((call.step engine).run start).1 events
      ((call.step engine).run start).2 := by
  cases call with
  | execute arguments options =>
    cases already : options.alreadyPrepared with
    | false =>
      apply Called.of_settling (by simp [Call.settles, already])
      · rw [Call.step, execute_eq, settleUnless, already]
        rfl
      · exact retaining_runReady engine arguments options
    | true =>
      apply Called.of_retaining (by simp) (by simp [Call.settles, already])
      rw [Call.step, execute_eq, settleUnless, already]
      exact retaining_runReady engine arguments options start
  | requireInsecure => exact ⟨[], .marked rfl⟩
  | bindingHandle =>
    apply Called.of_settling rfl rfl
    intro middle
    exact .own (.pure middle.1.handle)
  | bindValue placeholder value =>
    apply Called.of_settling rfl
    · exact bindValue_eq engine placeholder value
    · intro middle
      exact retaining_looking engine (.bind (.ask rfl) .ofExcept)
  | setFetchMode mode =>
    exact Called.of_retaining (by simp) rfl (retaining_setFetchMode engine mode start)
  | fetch =>
    apply Called.of_retaining (by simp) rfl
    have asks : Session.Confined engine start.1.handle
        (Session.fetchRow engine start.1.handle) := .bind (.ask rfl) .ofExcept
    exact retaining_looking engine (.bind asks fun fetched => .pure _)
  | fetchAll =>
    apply Called.of_retaining (by simp) rfl
    have rows := Session.confined_foldRows engine start.1.handle
      (fun rows values => .ok (start.1.rowOf values :: rows)) []
    exact retaining_looking engine (.bind rows fun rows => .pure rows.reverse)
  | fetchColumn index =>
    apply Called.of_retaining (by simp) rfl
    apply retaining_looking
    apply Session.Confined.bind (Session.confined_foldRows engine start.1.handle _ _)
    intro values
    exact .pure values.reverse
  | fetchAllKeyed keyIndex valueIndex =>
    apply Called.of_retaining (by simp) rfl
    exact retaining_fetchAllKeyed engine keyIndex valueIndex start

/-! ## The handle in use -/

variable {engine} {start stop : Statement × Session σ} {events : List Event}

theorem Called.leads {outcome : Except Failure call.Answer}
    (called : Called engine call start outcome events stop) :
    Session.Leads engine start.2 events stop.2 := by
  cases called with
  | marked => exact .refl start.2
  | kept unmarked idle retains => exact retains.toLeads
  | refused settles pending refused => exact refused.toLeads
  | replaced settles pending replaced retains => exact replaced.toLeads.trans retains.toLeads

/-- What a call asks for besides a preparation it asks for on the handle that it leaves, unless it
is one that has let a replacement wait. -/
theorem Called.on {outcome : Except Failure call.Answer} {request : Request}
    (called : Called engine call start outcome events stop)
    (ready : call.settles = true ∨ start.1.needsPrepare = false)
    (asked : request ∈ requests events) :
    (∃ handle text options, request = .prepare handle text options) ∨
      request.On stop.1.handle ∧ stop.1.needsPrepare = false := by
  cases called with
  | marked => cases asked
  | kept unmarked idle retains =>
    rw [retains.handle, retains.needsPrepare]
    exact .inr ⟨retains.on request asked, ready.elim idle id⟩
  | refused settles pending refused =>
    rw [refused.prepares] at asked
    exact .inl ⟨_, _, _, List.mem_singleton.mp asked⟩
  | replaced settles pending replaced retains =>
    obtain ⟨emissions, prepares⟩ := replaced.prepares
    rw [requests_append, prepares, List.mem_append] at asked
    rw [retains.handle, retains.needsPrepare]
    rcases asked with before | later
    · rw [preparing, requests_exchange, requests_exchange, requests_told] at before
      rw [replaced.statement]
      rcases List.mem_cons.mp before with prepare | mode
      · exact .inl ⟨_, _, _, prepare⟩
      · rw [List.mem_singleton.mp mode]
        exact .inr ⟨rfl, rfl⟩
    · refine .inr ⟨retains.on request later, ?_⟩
      rw [replaced.statement]

theorem Called.insecure {outcome : Except Failure call.Answer}
    (called : Called engine call start outcome events stop)
    (insecure : call = .requireInsecure ∨ start.1.prepareOptions.isInsecure = true) :
    stop.1.prepareOptions.isInsecure = true := by
  have marked : start.1.requireInsecure.prepareOptions.isInsecure = true := by
    unfold requireInsecure
    split
    · assumption
    · rfl
  cases called with
  | marked => exact marked
  | kept unmarked idle retains =>
    rw [retains.prepareOptions]
    exact insecure.resolve_left unmarked
  | refused settles pending refused =>
    rw [refused.statement]
    rcases insecure with rfl | insecure
    · cases settles
    · exact insecure
  | replaced settles pending replaced retains =>
    rw [retains.prepareOptions, replaced.statement]
    rcases insecure with rfl | insecure
    · cases settles
    · exact insecure

variable (engine)

theorem insecure_after {calls : List Call} {start : Statement × Session σ}
    (insecure : .requireInsecure ∈ calls ∨ start.1.prepareOptions.isInsecure = true) :
    (after engine calls start).1.prepareOptions.isInsecure = true := by
  induction calls generalizing start with
  | nil => exact insecure.resolve_left (by simp)
  | cons call rest ih =>
    obtain ⟨events, called⟩ := step_called engine call start
    apply ih
    rcases insecure with marked | insecure
    · rcases List.mem_cons.mp marked with rfl | later
      · exact .inr (called.insecure (.inl rfl))
      · exact .inl later
    · exact .inr (called.insecure (.inr insecure))

/-- Without a mark, a statement that has nothing pending keeps its handle. -/
theorem handle_after {calls : List Call} {start : Statement × Session σ}
    (unmarked : .requireInsecure ∉ calls) (idle : start.1.needsPrepare = false) :
    (after engine calls start).1.handle = start.1.handle ∧
      (after engine calls start).1.needsPrepare = false := by
  induction calls generalizing start with
  | nil => exact ⟨rfl, idle⟩
  | cons call rest ih =>
    obtain ⟨first, later⟩ := List.ne_and_not_mem_of_not_mem_cons unmarked
    obtain ⟨events, called⟩ := step_called engine call start
    rcases ran : (call.step engine).run start with ⟨outcome, stop⟩
    rw [ran] at called
    rw [after, ran]
    cases called with
    | marked mark => exact absurd mark.symm first
    | kept _ _ retains =>
      rw [← retains.handle]
      exact ih later (retains.needsPrepare.trans idle)
    | refused settles pending refused => simp [idle] at pending
    | replaced settles pending replaced retains => simp [idle] at pending

theorem bindingHandle_answer {start stop : Statement × Session σ} {handle : Handle}
    (ran : (bindingHandle engine).run start = (.ok handle, stop)) :
    stop.1.handle = handle ∧ stop.1.needsPrepare = false := by
  rw [bindingHandle] at ran
  cases flag : start.1.needsPrepare with
  | false =>
    rw [Step.run_bind_ok (run_settlePrepare_of_idle engine flag)] at ran
    cases ran
    exact ⟨rfl, flag⟩
  | true =>
    rcases run_settlePrepare_of_pending engine flag with
      ⟨failure, _, middle, settled, _⟩ | ⟨_, middle, settled, replaced⟩
    · rw [Step.run_bind_error settled] at ran
      cases ran
    · rw [Step.run_bind_ok settled] at ran
      cases ran
      refine ⟨rfl, ?_⟩
      rw [replaced.statement]

end SqlBridge.Statement
