import SqlBridge.Proofs.ReplacementPhase

/-!
# The replacement of a handle

A statement's handle is replaced once at most, when the handle is next needed;
until the engine grants it the statement keeps the handle it has, and every call
that needs the handle tries again.  A handle that has been answered for binding
is the one that runs next.
-/

set_option autoImplicit false

namespace SqlBridge

open Transcript

variable {σ : Type}

namespace Statement

/-! ## What is said of the statement -/

variable (engine : Engine σ) (first : Preparation)

structure PreparedOnce (session : Session σ) (state : Statement × Session σ) : Prop where
  once : ∃ later, preparations (state.2.since session) = first :: later ∧ later.length ≤ 1 ∧
    ∀ preparation ∈ later, preparation.sql = first.sql ∧ preparation.options = .insecure
  /-- Hence a handle tells what it was prepared with. -/
  distinct : ((preparations (state.2.since session)).map Preparation.handle).Nodup
  idle : state.1.needsPrepare = false →
    ⟨state.1.handle, first.sql, state.1.prepareOptions⟩ ∈ preparations (state.2.since session)
  pending : state.1.needsPrepare = true → state.1.prepareOptions = .insecure ∧
    ∃ preparation ∈ preparations (state.2.since session),
      preparation.handle = state.1.handle ∧ preparation.options.isInsecure = false

def Call.events (call : Call) (state : Statement × Session σ) : List Event :=
  ((call.step engine).run state).2.2.since state.2

/-- What a call does about a replacement that is pending. -/
structure Retries (call : Call) (start : Statement × Session σ)
    (outcome : Except Failure call.Answer) (events : List Event) (stop : Statement × Session σ) :
    Prop where
  /-- Only a successful preparation ends the wait. -/
  cleared : start.1.needsPrepare = true → stop.1.needsPrepare = false →
    preparations events = [⟨stop.1.handle, first.sql, .insecure⟩]
  /-- A call that settles tries first of all, and success ends the wait. -/
  tries : start.1.needsPrepare = true → call.settles = true → ∃ answer rest,
    events = .exchange (.prepare ⟨start.2.prepared⟩ first.sql .insecure) answer :: rest ∧
      (answer = .ok () → stop.1.needsPrepare = false)
  /-- A refusal is the outcome, and the replacement stays pending. -/
  refused : ∀ handle text options failure,
    .exchange (.prepare handle text options) (.error failure) ∈ events →
      outcome = .error failure ∧ stop.1 = start.1
  /-- Nothing else prepares. -/
  attempts : ∀ handle text options, .prepare handle text options ∈ requests events →
    start.1.needsPrepare = true ∧ call.settles = true

def RunsOnly (state : Statement × Session σ) (handle : Handle) : Prop :=
  ∀ (call : Call) other supplied,
    .run other supplied ∈ requests (call.events engine state) → other = handle

/-- What is known of a statement after the calls, and of the next call. -/
structure ReplacesOnce (session : Session σ) (opening : Statement × Session σ)
    (calls : List Call) : Prop where
  prepared : PreparedOnce first session (after engine calls opening)
  retries : ∀ call : Call, Retries first call (after engine calls opening)
    ((call.step engine).run (after engine calls opening)).1
    (call.events engine (after engine calls opening))
    ((call.step engine).run (after engine calls opening)).2
  /-- After a mark, an execution that does not say it is prepared runs no handle but one
  prepared insecurely. -/
  secured : ∀ arguments options handle supplied, .requireInsecure ∈ calls →
    options.alreadyPrepared = false →
      .run handle supplied ∈ requests
          (Call.events engine (.execute arguments options) (after engine calls opening)) →
        ∃ preparation ∈ preparations
            ((after engine (calls ++ [.execute arguments options]) opening).2.since session),
          preparation.handle = handle ∧ preparation.options.isInsecure = true
  /-- Without a mark in between, what runs is the handle that was answered for binding. -/
  bound : ∀ before between handle, calls = before ++ .bindingHandle :: between →
    .requireInsecure ∉ between →
      ((bindingHandle engine).run (after engine before opening)).1 = .ok handle →
        RunsOnly engine (after engine calls opening) handle
  /-- Without a mark in between, what runs is the handle that a value was bound on. -/
  boundValue : ∀ before between placeholder value handle,
    calls = before ++ .bindValue placeholder value :: between → .requireInsecure ∉ between →
      .bindValue handle placeholder value ∈ requests
          (Call.events engine (.bindValue placeholder value) (after engine before opening)) →
        RunsOnly engine (after engine calls opening) handle

/-! ## At most one replacement -/

section

variable {engine} {first} {session : Session σ} {call : Call} {state stop : Statement × Session σ}
  {events : List Event}

theorem Standing.since_eq (standing : Standing engine first session events state) :
    preparations (state.2.since session) = first :: preparations events := by
  rw [standing.toLeads.since_eq]
  rfl

theorem Standing.preparedOnce (standing : Standing engine first session events state) :
    PreparedOnce first session state where
  once := by
    rw [standing.since_eq]
    exact standing.phase.once
  distinct := by
    rw [standing.since_eq]
    exact standing.phase.distinct
  idle := by
    rw [standing.since_eq]
    exact standing.phase.of_idle
  pending := by
    intro waits
    obtain ⟨handle, insecure, secure, _⟩ := standing.phase.of_pending waits
    rw [standing.since_eq]
    exact ⟨insecure, first, List.mem_cons_self, handle.symm, secure⟩

theorem Replaced.refusal_notMem (replaced : Replaced engine state events stop) (handle : Handle)
    (text : String) (options : PrepareOptions) (failure : Failure) :
    .exchange (.prepare handle text options) (.error failure) ∉ events := by
  obtain ⟨emissions, prepares⟩ := replaced.prepares
  intro refused
  rw [prepares] at refused
  rcases List.mem_cons.mp refused with granted | after
  · cases granted
  · rcases List.mem_cons.mp after with moded | noted
    · cases moded
    · exact exchange_notMem_told _ _ emissions noted

theorem Standing.retries {outcome : Except Failure call.Answer} {back : List Event}
    (keeps : engine.KeepsSql) (standing : Standing engine first session events state)
    (called : Called engine call state outcome back stop) :
    Retries first call state outcome back stop := by
  cases called with
  | marked mark =>
    refine ⟨?_, ?_, by simp, by simp⟩
    · intro pending cleared
      unfold requireInsecure at cleared
      split at cleared
      · simp [pending] at cleared
      · cases cleared
    · intro _ settles
      rw [mark] at settles
      cases settles
  | kept unmarked idle retains =>
    refine ⟨?_, ?_, ?_, ?_⟩
    · intro pending cleared
      rw [retains.needsPrepare, pending] at cleared
      cases cleared
    · intro pending settles
      rw [idle settles] at pending
      cases pending
    · intro handle text options failure refused
      exact (retains.on _ (mem_requests refused)).elim
    · intro handle text options asked
      exact (retains.on _ asked).elim
  | refused settles pending refused =>
    have prepares := refused.prepares
    rw [standing.preparing_eq keeps pending] at prepares
    refine ⟨?_, fun _ _ => ⟨_, [], prepares, nofun⟩, ?_, fun _ _ _ _ => ⟨pending, settles⟩⟩
    · intro _ cleared
      rw [refused.statement, pending] at cleared
      cases cleared
    · intro handle text options failure listed
      rw [prepares] at listed
      cases List.mem_singleton.mp listed
      exact ⟨rfl, refused.statement⟩
  | replaced settles pending replaced retains =>
    obtain ⟨prepared, _⟩ := standing.replace keeps pending replaced
    obtain ⟨emissions, prepares⟩ := replaced.prepares
    rw [standing.preparing_eq keeps pending] at prepares
    refine ⟨?_, ?_, ?_, fun _ _ _ _ => ⟨pending, settles⟩⟩
    · intro _ _
      rw [preparations_append, prepared, preparations_of_on retains.on, retains.handle,
        List.append_nil]
    · intro _ _
      rw [prepares]
      refine ⟨_, _, rfl, fun _ => ?_⟩
      rw [retains.needsPrepare, replaced.statement]
    · intro handle text options failure listed
      rcases List.mem_append.mp listed with before | later
      · exact absurd before (replaced.refusal_notMem handle text options failure)
      · exact (retains.on _ (mem_requests later)).elim

theorem events_eq {back : List Event}
    (leads : Session.Leads engine state.2 back ((call.step engine).run state).2.2) :
    call.events engine state = back :=
  leads.since_eq

theorem runsOnly_of_idle (idle : state.1.needsPrepare = false) :
    RunsOnly engine state state.1.handle := by
  intro call other supplied ran
  obtain ⟨events, called⟩ := step_called engine call state
  rw [events_eq called.leads] at ran
  rcases answered : (call.step engine).run state with ⟨outcome, stop⟩
  rw [answered] at called
  cases called with
  | marked => cases ran
  | kept unmarked ready retains => exact retains.on _ ran
  | refused settles pending refused => simp [idle] at pending
  | replaced settles pending replaced retains => simp [idle] at pending

/-- A handle that nothing waits to replace stays the one to run until the next mark. -/
theorem runsOnly_after {calls : List Call} (unmarked : .requireInsecure ∉ calls)
    (idle : state.1.needsPrepare = false) :
    RunsOnly engine (after engine calls state) state.1.handle := by
  obtain ⟨sameHandle, stillIdle⟩ := handle_after engine unmarked idle
  rw [← sameHandle]
  exact runsOnly_of_idle stillIdle

end

theorem after_replacesOnce {sql : String} {options : PrepareOptions} {session opened : Session σ}
    {statement : Statement} (keeps : engine.KeepsSql)
    (prepared : (prepare engine sql options).run session = (.ok statement, opened))
    (calls : List Call) :
    ReplacesOnce engine ⟨statement.handle, sql, options⟩ session (statement, opened) calls := by
  have opens := Standing.of_prepare prepared
  obtain ⟨events, standing⟩ := opens.after keeps calls
  refine ⟨standing.preparedOnce, ?_, ?_, ?_, ?_⟩
  · intro call
    obtain ⟨back, called⟩ := step_called engine call (after engine calls (statement, opened))
    rw [events_eq called.leads]
    exact standing.retries keeps called
  · intro arguments options handle supplied marked unprepared ran
    obtain ⟨back, called⟩ := step_called engine (.execute arguments options)
      (after engine calls (statement, opened))
    rw [events_eq called.leads] at ran
    obtain ⟨_, _, _, other⟩ | ⟨on, idle⟩ :=
      called.on (.inl (by simp [Call.settles, unprepared])) ran
    · cases other
    obtain ⟨later, last⟩ := opens.after keeps (calls ++ [.execute arguments options])
    have insecure : (after engine (calls ++ [.execute arguments options])
        (statement, opened)).1.prepareOptions.isInsecure = true :=
      insecure_after engine (.inl (List.mem_append_left _ marked))
    rw [after_append] at last insecure ⊢
    exact ⟨_, last.preparedOnce.idle idle, on.symm, insecure⟩
  · intro before between handle split unmarked answered
    rcases ran : (bindingHandle engine).run (after engine before (statement, opened)) with
      ⟨outcome, middle⟩
    rw [ran] at answered
    cases answered
    obtain ⟨sameHandle, idle⟩ := bindingHandle_answer engine ran
    rw [split, after_append, after, Call.step, ran, ← sameHandle]
    exact runsOnly_after unmarked idle
  · intro before between placeholder value handle split unmarked bound
    obtain ⟨back, called⟩ := step_called engine (.bindValue placeholder value)
      (after engine before (statement, opened))
    rw [events_eq called.leads] at bound
    obtain ⟨_, _, _, other⟩ | ⟨on, idle⟩ := called.on (.inl rfl) bound
    · cases other
    have same : handle = _ := on
    rw [split, after_append, after, same]
    exact runsOnly_after unmarked idle

def busy : Session Script.World where
  state := { handles := [{}, { prepareFailure := some (.other "busy") }, {}] }

theorem after_replacesOnce_busy :
    let engine := Script.engine {}
    let opened := ((prepare engine "EXEC report" {}).run busy).2
    let opening : Statement × Session Script.World := (⟨⟨0⟩, {}, .assoc, false, [], [], []⟩, opened)
    let calls : List Call := [.requireInsecure, .execute .empty {}, .bindingHandle]
    engine.KeepsSql ∧ (prepare engine "EXEC report" {}).run busy = (.ok opening.1, opened) ∧
      preparations ((after engine calls opening).2.since busy) =
        [⟨⟨0⟩, "EXEC report", {}⟩, ⟨⟨2⟩, "EXEC report", .insecure⟩] ∧
      RunsOnly engine (after engine calls opening) ⟨2⟩ := by
  intro engine opened opening calls
  have keeps : engine.KeepsSql := Script.keepsSql_engine {}
  have prepared : (prepare engine "EXEC report" {}).run busy = (.ok opening.1, opened) := rfl
  have once := after_replacesOnce engine keeps prepared calls
  refine ⟨keeps, prepared, by decide +kernel, ?_⟩
  exact once.bound [.requireInsecure, .execute .empty {}] [] ⟨2⟩ rfl (by simp) rfl

end Statement

end SqlBridge
