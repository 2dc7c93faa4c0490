import SqlBridge.Session.Script
import SqlBridge.Proofs.LoggerUse
import SqlBridge.Proofs.VisibleColumns

/-!
# How an execution fails

An execution fails in one of three ways: the engine refuses the handle that is to replace the
present one, or it refuses the run, or it refuses something about a column of the result.  Each
way ends the execution, and what it leaves of the statement is the same wherever the statement
came from.
-/

set_option autoImplicit false

namespace SqlBridge

open Transcript

variable {σ : Type}

namespace Transcript

/-- The exchange is the last one; at most notices come after it. -/
def EndsWith (events : List Event) (request : Request) (answer : request.Answer) : Prop :=
  ∃ front back, events = front ++ .exchange request answer :: back ∧ requests back = []

theorem EndsWith.getLast? {events : List Event} {request : Request} {answer : request.Answer}
    (ends : EndsWith events request answer) : (requests events).getLast? = some request := by
  obtain ⟨front, back, rfl, silent⟩ := ends
  rw [requests_append, requests_exchange, silent, List.getLast?_append]
  rfl

theorem EndsWith.append {events : List Event} {request : Request} {answer : request.Answer}
    (ends : EndsWith events request answer) (before : List Event) :
    EndsWith (before ++ events) request answer := by
  obtain ⟨front, back, rfl, silent⟩ := ends
  exact ⟨before ++ front, back, (List.append_assoc ..).symm, silent⟩

end Transcript

namespace Session

def OnColumn (handle : Handle) (request : Request) : Prop :=
  (∃ index, request = .columnMeta handle index) ∨
    ∃ index buffer, request = .bindColumn handle index buffer

def ColumnRefused (handle : Handle) (failure : Failure) (events : List Event) : Prop :=
  (∃ index, EndsWith events (.columnMeta handle index) (.error failure)) ∨
    ∃ index buffer, EndsWith events (.bindColumn handle index buffer) (.error failure)

theorem ColumnRefused.append {handle : Handle} {failure : Failure} {events : List Event}
    (refused : ColumnRefused handle failure events) (before : List Event) :
    ColumnRefused handle failure (before ++ events) :=
  refused.imp (fun ⟨index, ends⟩ => ⟨index, ends.append before⟩)
    fun ⟨index, buffer, ends⟩ => ⟨index, buffer, ends.append before⟩

variable (engine : Engine σ)

theorem bindResultColumns_asks (handle : Handle) :
    Asks engine (OnColumn handle) (bindResultColumns engine handle) := by
  apply (compositional_asks engine (OnColumn handle)).bindResultColumns
  · intro index session
    refine ⟨_, .ask session (.columnMeta handle index) _ rfl, ?_⟩
    intro request asked
    exact .inl ⟨index, List.mem_singleton.mp asked⟩
  · intro index buffer session
    refine ⟨_, .ask session (.bindColumn handle index buffer) _ rfl, ?_⟩
    intro request asked
    exact .inr ⟨index, buffer, List.mem_singleton.mp asked⟩

theorem bindResultColumns_error {handle : Handle} {failure : Failure} {session later : Session σ}
    (failed : (bindResultColumns engine handle).run session = (.error failure, later)) :
    ∃ events, Leads engine session events later ∧ ColumnRefused handle failure events := by
  obtain ⟨events, passes, asks⟩ := bindResultColumns_asks engine handle session
  rw [failed] at passes
  obtain ⟨front, event, split, shows⟩ := exists_of_firstFailure? engine passes.failure
  refine ⟨events, passes.toLeads, ?_⟩
  have silent := passes.stops
  generalize afterFailure engine session.state events = back at split silent
  cases event with
  | emitted emission => cases shows
  | exchange request answer =>
    have asked : request ∈ requests events := by
      rw [split]
      exact mem_requests (List.mem_append_right front List.mem_cons_self)
    rcases asks request asked with ⟨index, rfl⟩ | ⟨index, buffer, rfl⟩
    · rw [failureOf_eq_some_iff.mp shows] at split
      exact .inl ⟨index, front, back, split, silent⟩
    · rw [failureOf_eq_some_iff.mp shows] at split
      exact .inr ⟨index, buffer, front, back, split, silent⟩

end Session

namespace Statement

variable (engine : Engine σ)

theorem failureRecord_eq (state : σ) (handle : Handle) :
    engine.failureRecord state handle =
      if engine.connectionError state = ⟨"00000", none, none⟩ then
        engine.statementError state handle
      else engine.connectionError state := by
  by_cases silent : engine.connectionError state = ⟨"00000", none, none⟩
  · rw [if_pos silent, Engine.failureRecord, silent]
    rfl
  · rw [if_neg silent, Engine.failureRecord, ErrorRecord.reconcile, if_neg]
    rw [ErrorRecord.isNone, beq_iff_eq]
    exact silent

/-! ## The run of a handle -/

theorem run_runHandle_of_refused {handle : Handle} {supplied : Option ParamList}
    {session : Session σ}
    (refused : (engine.answer (.run handle supplied) session.state).1 = false) :
    ∃ emissions later, (runHandle engine handle supplied).run session =
        (.error (.execution (engine.failureRecord later.state handle)), later) ∧
      Session.Leads engine session (.exchange (.run handle supplied) false :: told emissions)
        later := by
  obtain ⟨emissions, recorded⟩ := run_failureRecord engine handle
    (session.answered engine (.run handle supplied))
  have asked : Session.Leads engine session _ _ := .ask session (.run handle supplied)
  rw [run_runHandle, if_neg (by simp [refused]), Step.run_bind_ok recorded]
  rw [refused] at asked
  exact ⟨emissions, _, rfl, asked.trans (.note _ emissions)⟩

/-- A run that the engine has made can only fail by its columns. -/
theorem runHandle_error_of_ran {handle : Handle} {supplied : Option ParamList} {failure : Failure}
    {session later : Session σ}
    (ran : (engine.answer (.run handle supplied) session.state).1 = true)
    (failed : (runHandle engine handle supplied).run session = (.error failure, later)) :
    (Session.bindResultColumns engine handle).run
        (session.answered engine (.run handle supplied)) = (.error failure, later) := by
  rw [run_runHandle, if_pos ran, Step.run_bind] at failed
  rcases bound : (Session.bindResultColumns engine handle).run
    (session.answered engine (.run handle supplied)) with ⟨first | columns, middle⟩
  · rw [bound] at failed
    exact failed
  · rw [bound] at failed
    cases failed

inductive RunFails (handle : Handle) (supplied : Option ParamList) (failure : Failure)
    (later : Session σ) : List Event → Prop where
  | refused (emissions : List Emission)
      (recorded : failure = .execution (engine.failureRecord later.state handle)) :
      RunFails handle supplied failure later
        (.exchange (.run handle supplied) false :: told emissions)
  | unshaped {events : List Event} (refused : Session.ColumnRefused handle failure events) :
      RunFails handle supplied failure later (.exchange (.run handle supplied) true :: events)

theorem runHandle_error {handle : Handle} {supplied : Option ParamList} {failure : Failure}
    {session later : Session σ}
    (failed : (runHandle engine handle supplied).run session = (.error failure, later)) :
    ∃ events, Session.Leads engine session events later ∧
      RunFails engine handle supplied failure later events := by
  cases ran : (engine.answer (.run handle supplied) session.state).1 with
  | false =>
    obtain ⟨emissions, last, refused, leads⟩ := run_runHandle_of_refused engine ran
    rw [refused] at failed
    cases failed
    exact ⟨_, leads, .refused emissions rfl⟩
  | true =>
    have asked : Session.Leads engine session _ _ := .ask session (.run handle supplied)
    rw [ran] at asked
    obtain ⟨events, leads, refused⟩ :=
      Session.bindResultColumns_error engine (runHandle_error_of_ran engine ran failed)
    exact ⟨_, asked.trans leads, .unshaped refused⟩

/-- The logger is called behind the last step that can fail. -/
theorem unlogged_runHandle_of_error {handle : Handle} {supplied : Option ParamList}
    {failure : Failure} {session later : Session σ}
    (failed : (runHandle engine handle supplied).run session = (.error failure, later))
    (logger : Option Logger) :
    Step.CommutesAt (Session.withLogger logger) (runHandle engine handle supplied) session := by
  apply (Session.Unlogged.reading engine.clock logger session).bind
  intro started reader read
  cases read
  apply (Session.Unlogged.ask engine (.run handle supplied) logger session).bind
  intro succeeded middle asked
  obtain rfl : (engine.answer (.run handle supplied) session.state).1 = succeeded :=
    Except.ok.inj (congrArg Prod.fst asked)
  obtain rfl : session.answered engine (.run handle supplied) = middle := congrArg Prod.snd asked
  cases ran : (engine.answer (.run handle supplied) session.state).1 with
  | false =>
    exact Session.Unlogged.bind (unlogged_failureRecord engine handle)
      (fun record => .ofExcept _) logger _
  | true =>
    apply (Session.unlogged_bindResultColumns engine handle logger _).bind
    intro columns last bound
    rw [runHandle_error_of_ran engine ran failed] at bound
    cases bound

/-! ## Before and after the run -/

/-- What comes before the run of a handle.  The answer is the statement that is then there. -/
def ready (alreadyPrepared : Bool) (mode : Option FetchMode) :
    Step (Statement × Session σ) Statement := do
  settleUnless engine alreadyPrepared
  applyFetchMode engine mode
  Step.changeOwn withoutResult
  Step.own

def present (dropped : List String) (columns : List Column) :
    Step (Statement × Session σ) Bool := do
  let visible := visiblePositions columns dropped
  Step.within (Session.notifyAll (hiddenNotices columns visible))
  Step.changeOwn (withResult columns visible)
  return true

theorem execute_eq_ready (arguments : ParamList) (options : QueryOptions) :
    execute engine arguments options =
      ready engine options.alreadyPrepared options.mode? >>= fun statement =>
        (liftM (runHandle engine statement.handle arguments.supplied?) :
          Step (Statement × Session σ) (List Column)) >>= present options.dropColumns := by
  unfold ready
  simp only [Step.bind_assoc]
  rfl

structure Readied (start : Statement × Session σ) (events : List Event)
    (stop : Statement × Session σ) : Prop
    extends Session.Leads engine start.2 events stop.2 where
  early : ∀ request ∈ requests events, request.stage = .prepare ∨ request.stage = .mode
  forgotten : stop.1.result = ([], [], [])

theorem settleUnless_cases (alreadyPrepared : Bool) (start : Statement × Session σ) :
    (∃ failure events stop, (settleUnless engine alreadyPrepared).run start =
        (.error failure, stop) ∧ alreadyPrepared = false ∧ start.1.needsPrepare = true ∧
          Refused engine failure start events stop) ∨
      ∃ events middle, (settleUnless engine alreadyPrepared).run start = (.ok (), middle) ∧
        Session.Leads engine start.2 events middle.2 ∧
          ∀ request ∈ requests events, request.stage = .prepare ∨ request.stage = .mode := by
  cases alreadyPrepared with
  | true => exact .inr ⟨[], start, rfl, .refl start.2, by simp⟩
  | false =>
    cases flag : start.1.needsPrepare with
    | false =>
      exact .inr ⟨[], start, run_settlePrepare_of_idle engine flag, .refl start.2, by simp⟩
    | true =>
      rcases run_settlePrepare_of_pending engine flag with
        ⟨failure, events, stop, ran, refused⟩ | ⟨events, middle, ran, replaced⟩
      · exact .inl ⟨failure, events, stop, ran, rfl, rfl, refused⟩
      · refine .inr ⟨events, middle, ran, replaced.toLeads, ?_⟩
        obtain ⟨emissions, rfl⟩ := replaced.prepares
        simp [preparing, Request.stage]

theorem ready_cases (alreadyPrepared : Bool) (mode : Option FetchMode)
    (start : Statement × Session σ) :
    (∃ failure events stop, (ready engine alreadyPrepared mode).run start =
        (.error failure, stop) ∧ alreadyPrepared = false ∧ start.1.needsPrepare = true ∧
          Refused engine failure start events stop) ∨
      ∃ events stop, (ready engine alreadyPrepared mode).run start = (.ok stop.1, stop) ∧
        Readied engine start events stop := by
  rcases settleUnless_cases engine alreadyPrepared start with
    ⟨failure, events, stop, ran, unprepared, pending, refused⟩ | ⟨front, middle, ran, leads, early⟩
  · exact .inl ⟨failure, events, stop, by rw [ready, Step.run_bind_error ran], unprepared, pending,
      refused⟩
  · obtain ⟨back, changed, passes, applied, _, asked⟩ :=
      applyFetchMode_passes engine mode middle.1 middle.2
    refine .inr ⟨front ++ back, (changed.withoutResult, _), ?_,
      leads.trans passes.toLeads, ?_, rfl⟩
    · rw [ready, Step.run_bind_ok ran, Step.run_bind_ok applied]
      rfl
    · intro request listed
      rw [requests_append, List.mem_append, asked] at listed
      exact listed.elim (early request) fun moded => .inr (stage_of_mem_modeRequests moded)

theorem unloggedAt_ready (alreadyPrepared : Bool) (mode : Option FetchMode)
    (start : Statement × Session σ) : UnloggedAt (ready engine alreadyPrepared mode) start := by
  apply UnloggedAt.bind (unloggedAt_settleUnless engine alreadyPrepared start)
  intro _ settled _
  apply UnloggedAt.bind (unloggedAt_applyFetchMode engine mode settled)
  intro _ moded _
  apply UnloggedAt.bind (.changeOwn withoutResult)
  intro _ cleared _
  exact .own (.pure cleared.1)

/-! ## The ways to fail -/

/-- The engine has refused the run, and nothing of a result was asked for.  The reason is the
connection's record if it reports anything, else the handle's. -/
structure Unrun (supplied : Option ParamList) (failure : Failure) (events : List Event)
    (stop : Statement × Session σ) : Prop where
  refused : EndsWith events (.run stop.1.handle supplied) false
  unbound : ∀ request ∈ requests events, request.stage ≠ .columns
  reason : failure = .execution
    (if engine.connectionError stop.2.state = ⟨"00000", none, none⟩ then
      engine.statementError stop.2.state stop.1.handle
    else engine.connectionError stop.2.state)
  forgotten : stop.1.result = ([], [], [])

structure Unshaped (supplied : Option ParamList) (failure : Failure) (events : List Event)
    (stop : Statement × Session σ) : Prop where
  ran : .exchange (.run stop.1.handle supplied) true ∈ events
  refused : Session.ColumnRefused stop.1.handle failure events
  forgotten : stop.1.result = ([], [], [])

structure Unprepared (options : QueryOptions) (failure : Failure) (start : Statement × Session σ)
    (events : List Event) (stop : Statement × Session σ) : Prop
    extends Refused engine failure start events stop where
  wanted : options.alreadyPrepared = false
  pending : start.1.needsPrepare = true

/-- Of the ways to fail it is one and no other. -/
def FailsOneWay (arguments : ParamList) (options : QueryOptions) (failure : Failure)
    (start : Statement × Session σ) (events : List Event) (stop : Statement × Session σ) : Prop :=
  let unprepared := Unprepared engine options failure start events stop
  let unrun := Unrun engine arguments.supplied? failure events stop
  let unshaped := Unshaped arguments.supplied? failure events stop
  unprepared ∧ ¬ unrun ∧ ¬ unshaped ∨ ¬ unprepared ∧ unrun ∧ ¬ unshaped ∨
    ¬ unprepared ∧ ¬ unrun ∧ unshaped

section

variable {engine} {options : QueryOptions} {supplied : Option ParamList} {failure : Failure}
  {start stop : Statement × Session σ} {events : List Event}

/-- The kind of the last request tells the ways apart. -/
theorem Unprepared.last (unprepared : Unprepared engine options failure start events stop) :
    (requests events).getLast?.map Request.stage = some .prepare := by
  rw [unprepared.prepares]
  rfl

theorem Unrun.last (unrun : Unrun engine supplied failure events stop) :
    (requests events).getLast?.map Request.stage = some .run := by
  rw [unrun.refused.getLast?]
  rfl

theorem Unshaped.last (unshaped : Unshaped supplied failure events stop) :
    (requests events).getLast?.map Request.stage = some .columns := by
  rcases unshaped.refused with ⟨index, ends⟩ | ⟨index, buffer, ends⟩
  · rw [ends.getLast?]
    rfl
  · rw [ends.getLast?]
    rfl

theorem FailsOneWay.of_or {arguments : ParamList}
    (fails : Unprepared engine options failure start events stop ∨
      Unrun engine arguments.supplied? failure events stop ∨
        Unshaped arguments.supplied? failure events stop) :
    FailsOneWay engine arguments options failure start events stop := by
  rcases fails with unprepared | unrun | unshaped
  · refine .inl ⟨unprepared, fun unrun => ?_, fun unshaped => ?_⟩
    · cases unprepared.last.symm.trans unrun.last
    · cases unprepared.last.symm.trans unshaped.last
  · refine .inr (.inl ⟨fun unprepared => ?_, unrun, fun unshaped => ?_⟩)
    · cases unprepared.last.symm.trans unrun.last
    · cases unrun.last.symm.trans unshaped.last
  · refine .inr (.inr ⟨fun unprepared => ?_, fun unrun => ?_, unshaped⟩)
    · cases unprepared.last.symm.trans unshaped.last
    · cases unrun.last.symm.trans unshaped.last

/-- A failed run fails the execution: what came before has refused nothing. -/
theorem fails_of_runFails {middle : Statement × Session σ} {later : Session σ}
    {front back : List Event} (readied : Readied engine start front middle)
    (fails : RunFails engine middle.1.handle supplied failure later back) :
    Unrun engine supplied failure (front ++ back) (middle.1, later) ∨
      Unshaped supplied failure (front ++ back) (middle.1, later) := by
  cases fails with
  | refused emissions recorded =>
    refine .inl ⟨⟨front, told emissions, rfl, requests_told emissions⟩, ?_, ?_, readied.forgotten⟩
    · intro request asked
      rw [requests_append, requests_exchange, requests_told, List.mem_append,
        List.mem_singleton] at asked
      rcases asked with before | rfl
      · rcases readied.early request before with stage | stage <;> simp [stage]
      · simp [Request.stage]
    · rw [recorded, failureRecord_eq]
  | @unshaped columns refused =>
    refine .inr ⟨List.mem_append_right front List.mem_cons_self, ?_, readied.forgotten⟩
    exact (refused.append [.exchange (.run middle.1.handle supplied) true]).append front

end

theorem execute_error {arguments : ParamList} {options : QueryOptions} {failure : Failure}
    {start stop : Statement × Session σ}
    (failed : (execute engine arguments options).run start = (.error failure, stop)) :
    (∃ events, Session.Leads engine start.2 events stop.2 ∧
        FailsOneWay engine arguments options failure start events stop) ∧
      UnloggedAt (execute engine arguments options) start := by
  have prelude := unloggedAt_ready engine options.alreadyPrepared options.mode? start
  rw [execute_eq_ready] at failed ⊢
  rcases ready_cases engine options.alreadyPrepared options.mode? start with
    ⟨first, events, last, ran, wanted, pending, refused⟩ | ⟨front, middle, ran, readied⟩
  · rw [Step.run_bind_error ran] at failed
    cases failed
    refine ⟨⟨events, refused.toLeads, .of_or (.inl ⟨refused, wanted, pending⟩)⟩, ?_⟩
    apply prelude.bind
    intro statement later answered
    rw [ran] at answered
    cases answered
  · rw [Step.run_bind_ok ran] at failed
    rcases handled : (runHandle engine middle.1.handle arguments.supplied?).run middle.2 with
      ⟨first | columns, later⟩
    · have lifted : (liftM (runHandle engine middle.1.handle arguments.supplied?) :
          Step (Statement × Session σ) (List Column)).run middle =
            (.error first, (middle.1, later)) := by
        rw [Step.run_lift, handled]
      rw [Step.run_bind_error lifted] at failed
      cases failed
      obtain ⟨back, leads, fails⟩ := runHandle_error engine handled
      refine ⟨⟨front ++ back, readied.toLeads.trans leads,
        .of_or (.inr (fails_of_runFails readied fails))⟩, ?_⟩
      apply prelude.bind
      intro statement ready answered
      rw [ran] at answered
      cases answered
      apply UnloggedAt.bind
      · exact fun logger => (unlogged_runHandle_of_error engine handled logger).lift
      · intro columns shown answered
        rw [lifted] at answered
        cases answered
    · rw [Step.run_bind, Step.run_lift, handled] at failed
      cases failed

/-! ## What is handed over with a run -/

theorem run_present (dropped : List String) (columns : List Column)
    (start : Statement × Session σ) :
    ∃ emissions shown, (present dropped columns).run start =
      (.ok true, (shown, start.2.note (told emissions))) := by
  refine ⟨(hiddenNotices columns (visiblePositions columns dropped)).map Emission.reported,
    start.1.withResult columns (visiblePositions columns dropped), ?_⟩
  simp only [present, Step.run_bind, Step.run_within, Session.run_notifyAll, Step.run_changeOwn,
    Step.run_pure]

/-- An execution runs at most one handle, with the arguments that it has been given. -/
theorem execute_runs (arguments : ParamList) (options : QueryOptions)
    (start : Statement × Session σ) :
    ∃ events, Session.Leads engine start.2 events
        ((execute engine arguments options).run start).2.2 ∧
      ∀ handle supplied, .run handle supplied ∈ requests events →
        supplied = arguments.supplied? := by
  rw [execute_eq_ready]
  rcases ready_cases engine options.alreadyPrepared options.mode? start with
    ⟨failure, events, stop, ran, _, _, refused⟩ | ⟨front, middle, ran, readied⟩
  · rw [Step.run_bind_error ran]
    refine ⟨events, refused.toLeads, ?_⟩
    intro handle supplied asked
    rw [refused.prepares] at asked
    cases List.mem_singleton.mp asked
  · obtain ⟨answer, back, passes, columns⟩ :=
      runHandle_passes engine middle.1.handle arguments.supplied? middle.2
    have given : ∀ emissions handle supplied,
        .run handle supplied ∈ requests (front ++
          (.exchange (.run middle.1.handle arguments.supplied?) answer :: back ++
            told emissions)) → supplied = arguments.supplied? := by
      intro emissions handle supplied asked
      rw [requests_append, requests_append, requests_exchange, requests_told, List.append_nil,
        List.mem_append, List.mem_cons] at asked
      rcases asked with before | same | after
      · cases readied.early _ before with
        | inl stage => cases stage
        | inr stage => cases stage
      · cases same
        rfl
      · cases columns _ after
    rw [Step.run_bind_ok ran, Step.run_bind, Step.run_lift]
    rcases handled : (runHandle engine middle.1.handle arguments.supplied?).run middle.2 with
      ⟨failure | columns, later⟩
    · rw [handled] at passes
      refine ⟨_, readied.toLeads.trans passes.toLeads, fun handle supplied asked => ?_⟩
      exact given [] handle supplied (by simpa [told] using asked)
    · rw [handled] at passes
      obtain ⟨emissions, shown, presented⟩ :=
        run_present (σ := σ) options.dropColumns columns (middle.1, later)
      simp only [presented]
      exact ⟨_, readied.toLeads.trans (passes.toLeads.trans (.note later emissions)),
        given emissions⟩

theorem supplied?_cases (arguments : ParamList) :
    arguments.supplied? = none ∨
      ∃ params, arguments.supplied? = some params ∧ params.params ≠ [] := by
  unfold ParamList.supplied?
  split
  · exact .inl rfl
  · rename_i some
    exact .inr ⟨arguments, rfl, by simpa [ParamList.isEmpty] using some⟩

/-- An execution that fails does so in one of three ways, each with the state that it leaves, and
never calls the logger.  Failed or not, it hands no empty list over with a run. -/
theorem execute_failsOneWay (arguments : ParamList) (options : QueryOptions)
    (start : Statement × Session σ) :
    let ran := (execute engine arguments options).run start
    let events := ran.2.2.since start.2
    (∀ failure, ran.1 = .error failure →
      Session.Leads engine start.2 events ran.2.2 ∧
        FailsOneWay engine arguments options failure start events ran.2 ∧
          UnloggedAt (execute engine arguments options) start) ∧
    ∀ handle supplied, .run handle supplied ∈ requests events →
      supplied = none ∨ ∃ params, supplied = some params ∧ params.params ≠ [] := by
  intro ran events
  refine ⟨?_, ?_⟩
  · intro failure failed
    obtain ⟨⟨others, leads, fails⟩, unlogged⟩ :=
      execute_error engine (Prod.ext failed rfl : ran = (.error failure, ran.2))
    have same : events = others := leads.since_eq
    rw [same]
    exact ⟨leads, fails, unlogged⟩
  · intro handle supplied asked
    obtain ⟨others, leads, given⟩ := execute_runs engine arguments options start
    have same : events = others := leads.since_eq
    rw [same] at asked
    rw [given handle supplied asked]
    exact supplied?_cases arguments

def exhausted : Session Script.World where
  state := { handles := [{ runs := [
    { columns := [⟨"id", "int", none⟩, ⟨"__pos", "int", none⟩] },
    { columns := [⟨"id", "int", none⟩, ⟨"__pos", "int", none⟩]
      columnFault := some ⟨1, .other "no memory"⟩ }] }] }

def shownOnce : Statement × Session Script.World :=
  after (Script.engine {}) [.execute .empty {}] (⟨⟨0⟩, {}, .assoc, false, [], [], []⟩,
    ((prepare (Script.engine {}) "SELECT * FROM shelf" {}).run exhausted).2)

def secondRun : Except Failure Bool × (Statement × Session Script.World) :=
  (execute (Script.engine {}) .empty {}).run shownOnce

theorem execute_failsOneWay_exhausted :
    shownOnce.1.columnNames = ["id"] ∧ failureOf secondRun.1 = some (.other "no memory") ∧
      FailsOneWay (Script.engine {}) .empty {} (.other "no memory") shownOnce
        (secondRun.2.2.since shownOnce.2) secondRun.2 ∧
      secondRun.2.1.result = ([], [], []) := by
  have failed : failureOf secondRun.1 = some (.other "no memory") := by decide +kernel
  have fails := (execute_failsOneWay (Script.engine {}) .empty {} shownOnce).1
  exact ⟨by decide +kernel, failed, (fails _ (failureOf_eq_some_iff.mp failed)).2.1,
    by decide +kernel⟩

end Statement

end SqlBridge
