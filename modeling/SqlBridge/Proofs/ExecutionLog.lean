import Mathlib.Data.List.Forall2
import SqlBridge.Proofs.FailedExecution
import SqlBridge.Proofs.QuietSteps

/-!
# What an execution leaves in the log

An execution that succeeds adds one entry to the log, in its own course and behind its only run.
The entry is about the handle that ran: replacing the handle comes before the run, and nothing of
the call before is left by then.  An execution that fails adds nothing.
-/

set_option autoImplicit false

namespace SqlBridge

open Transcript

variable {σ α : Type}

def Event.isRun : Event → Bool
  | .exchange (.run _ _) _ => true
  | _ => false

namespace Transcript

def runs (events : List Event) : List Event :=
  events.filter Event.isRun

@[simp] theorem runs_append (front back : List Event) :
    runs (front ++ back) = runs front ++ runs back :=
  List.filter_append ..

theorem runs_of_stage {events : List Event}
    (others : ∀ request ∈ requests events, request.stage ≠ .run) : runs events = [] := by
  rw [runs, List.filter_eq_nil_iff]
  intro event happened runs
  cases event with
  | emitted emission => cases runs
  | exchange request answer =>
    have other := others request (mem_requests happened)
    cases request with
    | run handle supplied => exact other rfl
    | _ => cases runs

end Transcript

structure Execution (σ : Type) where
  arguments : ParamList
  options : QueryOptions
  start : Statement × Session σ

namespace Execution

variable (engine : Engine σ) (execution : Execution σ)

def ran : Except Failure Bool × (Statement × Session σ) :=
  (Statement.execute engine execution.arguments execution.options).run execution.start

def succeeds : Bool :=
  (failureOf (execution.ran engine).1).isNone

def events : List Event :=
  (execution.ran engine).2.2.since execution.start.2

def handle : Handle :=
  (execution.ran engine).2.1.handle

/-- The entry is the one that the execution has to leave: it comes behind the only run, and it
tells the SQL of the handle that ran and what was handed over with the run. -/
structure Records (entry : LogEntry) : Prop where
  arguments : entry.arguments =
    if execution.arguments.params = [] then none else some execution.arguments
  placed : ∃ before behind,
    execution.events engine = before ++ .emitted (.recorded entry) :: behind ∧
      runs before = [.exchange (.run (execution.handle engine) entry.arguments) true] ∧
      runs behind = [] ∧
      entry.sql =
        engine.sql (stateAfter engine execution.start.2.state before) (execution.handle engine)

end Execution

theorem ParamList.supplied?_eq_ite (list : ParamList) :
    list.supplied? = if list.params = [] then none else some list := by
  simp [supplied?, isEmpty]

namespace Session

variable (engine : Engine σ)

/-- A recorder takes down what it is handed. -/
theorem logs_logged (entry : LogEntry) {session : Session σ}
    (recording : session.logger = some .recorder) :
    Logs engine [entry] session (told [.recorded entry]) (session.logged entry) := by
  have logged : session.logged entry =
      { session.note (told [.recorded entry]) with logger := some .recorder } := by
    unfold Session.logged
    rw [recording]
    rfl
  have noted : Leads engine session _ _ := .note session [.recorded entry]
  rw [logged]
  exact ⟨⟨noted.transcript, noted.state, noted.genuine⟩, recording.symm, rfl⟩

/-- The events that a session has gained are the same however they were found. -/
theorem Quiet.of_leads {engine : Engine σ} {session later : Session σ} {events others : List Event}
    (quiet : Quiet engine session others later) (leads : Leads engine session events later) :
    Quiet engine session events later := by
  obtain rfl : others = events := quiet.since_eq.symm.trans leads.since_eq
  exact quiet

end Session

namespace Statement

open Session (Quiet chains_quiet)

variable (engine : Engine σ)

/-! ## Before, in and after a run -/

theorem quiet_ready (alreadyPrepared : Bool) (mode : Option FetchMode)
    (start : Statement × Session σ) :
    Step.Along (Beside (Quiet engine)) (ready engine alreadyPrepared mode) start := by
  have chains := (chains_quiet engine).beside (ρ := Statement)
  have admits := admits_quiet engine
  apply Step.Along.bind chains (admits.settleUnless alreadyPrepared start)
  intro _ settled _
  apply Step.Along.bind chains (admits.applyFetchMode mode settled)
  intro _ moded _
  apply Step.Along.bind chains (.changeOwn (chains_quiet engine) withoutResult)
  intro _ cleared _
  exact .reading chains Prod.fst

theorem quiet_present (dropped : List String) (columns : List Column)
    (start : Statement × Session σ) :
    Step.Along (Beside (Quiet engine)) (present dropped columns) start := by
  have chains := (chains_quiet engine).beside (ρ := Statement)
  apply Step.Along.bind chains (.lift (Session.quiet_notifyAll engine _ start.2))
  intro _ noted _
  apply Step.Along.bind chains (.changeOwn (chains_quiet engine) _)
  intro _ shown _
  exact .pure chains true

theorem handle_present (dropped : List String) (columns : List Column)
    (start : Statement × Session σ) :
    ((present dropped columns).run start).2.1.handle = start.1.handle := rfl

theorem run_runHandle_of_ok {handle : Handle} {supplied : Option ParamList}
    {session later : Session σ} {columns : List Column}
    (ran : (runHandle engine handle supplied).run session = (.ok columns, later)) :
    (engine.answer (.run handle supplied) session.state).1 = true ∧
      ∃ bound elapsed, (Session.bindResultColumns engine handle).run
          (session.answered engine (.run handle supplied)) = (.ok columns, bound) ∧
        later = bound.logged ⟨engine.sql bound.state handle, supplied, elapsed⟩ := by
  cases answered : (engine.answer (.run handle supplied) session.state).1 with
  | false =>
    obtain ⟨emissions, last, refused, _⟩ := run_runHandle_of_refused engine answered
    rw [refused] at ran
    cases ran
  | true =>
    rw [run_runHandle, if_pos answered, Step.run_bind] at ran
    rcases shaped : (Session.bindResultColumns engine handle).run
      (session.answered engine (.run handle supplied)) with ⟨failure | shown, bound⟩
    · rw [shaped] at ran
      cases ran
    · rw [shaped] at ran
      cases ran
      exact ⟨rfl, bound, _, rfl, rfl⟩

theorem quiet_runHandle_of_error {handle : Handle} {supplied : Option ParamList}
    {failure : Failure} {session later : Session σ}
    (failed : (runHandle engine handle supplied).run session = (.error failure, later)) :
    Step.Along (Quiet engine) (runHandle engine handle supplied) session := by
  have chains := chains_quiet engine
  apply Step.Along.bind chains (.reading chains _)
  intro started reader read
  cases read
  apply Step.Along.bind chains ⟨_, .ask engine (.run handle supplied) session⟩
  intro succeeded middle asked
  obtain rfl : (engine.answer (.run handle supplied) session.state).1 = succeeded :=
    Except.ok.inj (congrArg Prod.fst asked)
  obtain rfl : session.answered engine (.run handle supplied) = middle := congrArg Prod.snd asked
  cases ran : (engine.answer (.run handle supplied) session.state).1 with
  | false =>
    apply Step.Along.bind chains (quiet_failureRecord engine handle _)
    intro record _ _
    exact .ofExcept chains _
  | true =>
    apply Step.Along.bind chains (Session.quiet_bindResultColumns engine handle _)
    intro columns last bound
    rw [runHandle_error_of_ran engine ran failed] at bound
    cases bound

/-- A run that succeeds is logged once its columns are bound. -/
theorem runHandle_hands {handle : Handle} {supplied : Option ParamList}
    {session later : Session σ} {columns : List Column}
    (ran : (runHandle engine handle supplied).run session = (.ok columns, later)) :
    ∃ before bound entry, Quiet engine session before bound ∧
      later = bound.logged entry ∧
      runs before = [.exchange (.run handle supplied) true] ∧
      entry.sql = engine.sql bound.state handle ∧
      entry.arguments = supplied := by
  obtain ⟨answered, bound, elapsed, shaped, rfl⟩ := run_runHandle_of_ok engine ran
  have asked : Quiet engine session _ _ := .ask engine (.run handle supplied) session
  rw [answered] at asked
  obtain ⟨events, passes, about⟩ := Session.asks_bindResultColumns engine handle
    (session.answered engine (.run handle supplied))
  obtain ⟨_, along⟩ := Session.quiet_bindResultColumns engine handle
    (session.answered engine (.run handle supplied))
  have binds := along.of_leads passes.toLeads
  rw [shaped] at binds
  have unrun : runs events = [] := by
    apply runs_of_stage
    intro request listed
    rw [about request listed]
    simp
  refine ⟨_, bound, _, asked.trans binds, rfl, ?_, rfl, rfl⟩
  rw [runs_append, unrun]
  rfl

/-! ## A whole execution -/

theorem quiet_execute_of_error {arguments : ParamList} {options : QueryOptions} {failure : Failure}
    {start stop : Statement × Session σ}
    (failed : (execute engine arguments options).run start = (.error failure, stop)) :
    Step.Along (Beside (Quiet engine)) (execute engine arguments options) start := by
  have chains := (chains_quiet engine).beside (ρ := Statement)
  rw [execute_eq_ready] at failed ⊢
  apply Step.Along.bind chains (quiet_ready engine _ _ start)
  intro statement middle readied
  rw [Step.run_bind_ok readied] at failed
  rcases handled : (runHandle engine statement.handle arguments.supplied?).run middle.2 with
    ⟨first | columns, later⟩
  · apply Step.Along.bind chains (.lift (quiet_runHandle_of_error engine handled))
    intro columns shown answered
    rw [Step.run_lift, handled] at answered
    cases answered
  · rw [Step.run_bind, Step.run_lift, handled] at failed
    cases failed

/-- An execution that succeeds hands the logger one entry.  All before and behind that is quiet, and
the only run comes before it. -/
theorem execute_hands {arguments : ParamList} {options : QueryOptions} {answer : Bool}
    {start stop : Statement × Session σ}
    (fine : (execute engine arguments options).run start = (.ok answer, stop)) :
    ∃ before bound entry behind, Quiet engine start.2 before bound ∧
      Quiet engine (bound.logged entry) behind stop.2 ∧
      runs before = [.exchange (.run stop.1.handle arguments.supplied?) true] ∧
      runs behind = [] ∧
      entry.sql = engine.sql bound.state stop.1.handle ∧
      entry.arguments = arguments.supplied? := by
  rw [execute_eq_ready] at fine
  rcases ready_cases engine options.alreadyPrepared options.mode? start with
    ⟨failure, events, last, ran, _⟩ | ⟨front, middle, ran, readied⟩
  · rw [Step.run_bind_error ran] at fine
    cases fine
  rw [Step.run_bind_ok ran] at fine
  rcases handled : (runHandle engine middle.1.handle arguments.supplied?).run middle.2 with
    ⟨failure | columns, later⟩
  · rw [Step.run_bind, Step.run_lift, handled] at fine
    cases fine
  obtain ⟨_, readies⟩ := quiet_ready engine options.alreadyPrepared options.mode? start
  rw [ran] at readies
  have readies := Session.Quiet.of_leads readies readied.toLeads
  obtain ⟨before, bound, entry, quiet, logged, ranOnce, sql, supplied⟩ :=
    runHandle_hands engine handled
  have sameHandle := handle_present options.dropColumns columns (middle.1, later)
  obtain ⟨_, presents⟩ := quiet_present engine options.dropColumns columns (middle.1, later)
  obtain ⟨emissions, shown, presented⟩ :=
    run_present (σ := σ) options.dropColumns columns (middle.1, later)
  rw [Step.run_bind, Step.run_lift, handled] at fine
  simp only [presented] at fine sameHandle presents
  cases fine
  have presents := Session.Quiet.of_leads presents (.note later emissions)
  rw [logged] at presents
  have unrun : runs front = [] := by
    apply runs_of_stage
    intro request asked
    rcases readied.early request asked with stage | stage <;> simp [stage]
  refine ⟨front ++ before, bound, entry, told emissions, readies.trans quiet, ?_, ?_, ?_, ?_,
    supplied⟩
  · rw [logged]
    exact presents
  · rw [runs_append, unrun, ranOnce, sameHandle]
    rfl
  · exact runs_of_stage (by simp)
  · rw [sql, sameHandle]

theorem execute_logs {arguments : ParamList} {options : QueryOptions} {answer : Bool}
    {start stop : Statement × Session σ} (recording : start.2.logger = some .recorder)
    (fine : (execute engine arguments options).run start = (.ok answer, stop)) :
    ∃ before behind entry,
      Session.Logs engine [entry] start.2 (before ++ .emitted (.recorded entry) :: behind) stop.2 ∧
      runs before = [.exchange (.run stop.1.handle arguments.supplied?) true] ∧
      runs behind = [] ∧
      entry.sql = engine.sql (stateAfter engine start.2.state before) stop.1.handle ∧
      entry.arguments = arguments.supplied? := by
  obtain ⟨before, bound, entry, behind, quiet, presents, ranOnce, unrun, sql, supplied⟩ :=
    execute_hands engine fine
  have logs := Session.logs_logged engine entry (quiet.logger.trans recording)
  refine ⟨before, behind, entry, ?_, ranOnce, unrun, ?_, supplied⟩
  · have all := (quiet.trans logs).trans presents
    simpa [told] using all
  · rw [sql, quiet.state]

end Statement

/-! ## Executions and entries -/

namespace Session

variable (engine : Engine σ)

/-- The log that is kept on the way from one session to another has one entry, in order, for each
of these executions that succeeds. -/
structure Accounts (executions : List (Execution σ)) (session : Session σ) (events : List Event)
    (later : Session σ) : Prop extends Leads engine session events later where
  logger : later.logger = session.logger
  entries : List.Forall₂ (Execution.Records engine)
    (executions.filter fun execution => execution.succeeds engine) (recorded events)

variable {engine}

theorem Quiet.accounts {session later : Session σ} {events : List Event}
    (quiet : Quiet engine session events later) : Accounts engine [] session events later where
  toLeads := quiet.toLeads
  logger := quiet.logger
  entries := by
    rw [quiet.entries]
    exact .nil

theorem Accounts.trans {first second : List (Execution σ)} {session middle later : Session σ}
    {front back : List Event} (before : Accounts engine first session front middle)
    (behind : Accounts engine second middle back later) :
    Accounts engine (first ++ second) session (front ++ back) later where
  toLeads := before.toLeads.trans behind.toLeads
  logger := behind.logger.trans before.logger
  entries := by
    rw [List.filter_append, recorded_append]
    exact List.rel_append before.entries behind.entries

end Session

theorem Execution.accounts (engine : Engine σ) (execution : Execution σ)
    (recording : execution.start.2.logger = some .recorder) :
    Session.Accounts engine [execution] execution.start.2 (execution.events engine)
      (execution.ran engine).2.2 := by
  cases ended : (execution.ran engine).1 with
  | error failure =>
    obtain ⟨events, quiet⟩ := Statement.quiet_execute_of_error engine
      (Prod.ext ended rfl : execution.ran engine = (.error failure, (execution.ran engine).2))
    have same : execution.events engine = events := quiet.since_eq
    have fails : execution.succeeds engine = false := by rw [succeeds, ended]; rfl
    rw [same]
    refine ⟨quiet.toLeads, quiet.logger, ?_⟩
    rw [quiet.entries, List.filter_cons_of_neg (by simp [fails])]
    exact .nil
  | ok answer =>
    obtain ⟨before, behind, entry, logs, ranOnce, unrun, sql, supplied⟩ :=
      Statement.execute_logs engine recording
        (Prod.ext ended rfl : execution.ran engine = (.ok answer, (execution.ran engine).2))
    have same : execution.events engine = _ := logs.since_eq
    have fine : execution.succeeds engine = true := by rw [succeeds, ended]; rfl
    have records : execution.Records engine entry := by
      refine ⟨supplied.trans (ParamList.supplied?_eq_ite _), before, behind, same, ?_, unrun, sql⟩
      rw [supplied]
      exact ranOnce
    rw [same]
    refine ⟨logs.toLeads, logs.logger, ?_⟩
    rw [logs.entries, List.filter_cons_of_pos fine]
    exact .cons records .nil

end SqlBridge
