import SqlBridge.Proofs.UpdatePlan
import SqlBridge.Proofs.StatementRun

/-!
# The course of an update

Executing an update that sets something takes one of four courses: the table is
unknown, nothing is left to assign, the statement is refused, or a handle is
there and everything is bound to it and run.  In each the first failure is the
outcome, and only the blobs are released after it.
-/

set_option autoImplicit false

namespace SqlBridge

open Transcript

variable {σ : Type}

inductive Ran (handle : Handle) (bindings : List Binding) (mode : Option FetchMode) :
    List Event → Except Failure Unit → Prop where
  | unbound {events : List Event} (failure : Failure)
      (bound : Bound handle bindings events (.error failure)) :
      Ran handle bindings mode events (.error failure)
  | ran {back : List Event} {rest : List Request} (outcome : Except Failure Unit)
      (asked : requests back = Statement.modeRequests handle mode ++ .run handle none :: rest)
      (columns : ∀ request ∈ rest, Session.AboutColumns request) :
      Ran handle bindings mode (bindings.map (Binding.event handle (.ok ())) ++ back) outcome

theorem Ran.of_bound {handle : Handle} {bindings : List Binding} {mode : Option FetchMode}
    {front back : List Event} {rest : List Request} {answer : Except Failure Unit}
    (bound : Bound handle bindings front answer) (fine : answer = .ok ())
    (asked : requests back = Statement.modeRequests handle mode ++ .run handle none :: rest)
    (columns : ∀ request ∈ rest, Session.AboutColumns request) (outcome : Except Failure Unit) :
    Ran handle bindings mode (front ++ back) outcome := by
  rw [bound.events_of_ok fine]
  exact .ran outcome asked columns

theorem Ran.stage_of_mem {handle : Handle} {bindings : List Binding} {mode : Option FetchMode}
    {events : List Event} {outcome : Except Failure Unit}
    (ran : Ran handle bindings mode events outcome) {request : Request}
    (asked : request ∈ requests events) :
    request.stage ∈ [Request.Stage.bind, .mode, .run, .columns] := by
  cases ran with
  | unbound failure bound => simp [bound.stage_of_mem asked]
  | ran outcome same columns =>
    rw [requests_append, Binding.requests_map_event, same, List.mem_append, List.mem_append,
      List.mem_cons] at asked
    rcases asked with binding | mode | rfl | column
    · obtain ⟨binding, _, rfl⟩ := List.mem_map.mp binding
      simp
    · simp [Statement.stage_of_mem_modeRequests mode]
    · simp [Request.stage]
    · have stage : request.stage = .columns := columns request column
      simp [stage]

namespace Update

theorem bindCondition_bound (engine : Engine σ) (handle : Handle)
    (condition : Option CompiledCondition) (session : Session σ) :
    ∃ events, Session.Passes engine session
        ((bindCondition engine handle condition).run session).1 events
        ((bindCondition engine handle condition).run session).2 ∧
      Bound handle (Binding.ofCondition condition) events
        ((bindCondition engine handle condition).run session).1 := by
  cases condition with
  | none => exact ⟨[], .pure session (), .done⟩
  | some compiled =>
    exact Session.bindParams_bound engine handle compiled.arguments.params session

def bindAll (engine : Engine σ) (update : Update) (handle : Handle) (literals : Fields Value)
    (info : ColumnInformation) (condition : Option CompiledCondition) :
    Step (BlobHolder × Session σ) Unit := do
  let (bound, plain) ← (Step.beside literals
    (Session.bindExpressions engine handle update.expressions) : Step (Session σ) _)
  Step.ofExcept bound
  Session.bindLiterals engine handle info update.placeholder plain
  bindCondition engine handle condition

def executing (engine : Engine σ) (update : Update) (statement : Statement) :
    Step (BlobHolder × Session σ) Unit := do
  let (ran, _) ← (Step.beside statement
    (Statement.execute engine .empty (update.options.withAlreadyPrepared true)) :
      Step (Session σ) _)
  let _ ← Step.ofExcept ran
  return ()

theorem bindAndRun_eq (engine : Engine σ) (update : Update) (statement : Statement)
    (literals : Fields Value) (info : ColumnInformation) (condition : Option CompiledCondition) :
    update.bindAndRun engine statement literals info condition =
      update.bindAll engine statement.handle literals info condition >>= fun _ =>
        update.executing engine statement := by
  unfold bindAndRun bindAll executing
  simp only [Step.bind_assoc]

theorem run_executing (engine : Engine σ) (update : Update) (statement : Statement)
    (holder : BlobHolder) (session : Session σ) :
    let ran := (Statement.execute engine .empty (update.options.withAlreadyPrepared true)).run
      (statement, session)
    (update.executing engine statement).run (holder, session) =
      (ran.1.map fun _ => (), (holder, ran.2.2)) := by
  intro ran
  rw [executing, Step.run_bind, Step.run_lift, Step.run_beside]
  change (Step.ofExcept ran.1 >>= fun _ => pure ()).run (holder, ran.2.2) = _
  rw [Step.run_bind, Step.run_ofExcept]
  cases ran.1 <;> rfl

/-- What is bound is what the text has numbered: the literals are those that the expressions
leave over. -/
theorem bindAll_binds (engine : Engine σ) (update : Update) (handle : Handle)
    (info : ColumnInformation) (start : BlobHolder × Session σ) :
    let step := update.bindAll engine handle (update.writableLiterals info) info
      (update.compiledCondition engine.dialect)
    ∃ events, Session.Binds engine handle (update.bindings engine.dialect info) start
      (step.run start).1 events (step.run start).2 := by
  intro step
  obtain ⟨holder, session⟩ := start
  obtain ⟨first, passes, bound, left⟩ := Session.bindExpressions_bound engine handle
    update.expressions (update.writableLiterals info) session
  have expressions := Session.Binds.of_inline passes bound
    (fun _ => Binding.blob?_of_mem_ofExpressions) holder
  simp only [step, bindAll, Step.run_bind, Step.run_lift, Step.run_beside, Step.run_ofExcept,
    bindings, List.append_assoc]
  rcases ran : (Session.bindExpressions engine handle update.expressions).run
    (update.writableLiterals info, session) with ⟨failure | _, plain, middle⟩
  · rw [ran] at expressions
    exact ⟨first, expressions.of_error _⟩
  rw [ran] at expressions left
  rw [filter_writableLiterals] at left
  obtain rfl : plain = _ := left rfl
  obtain ⟨second, literals⟩ := Session.bindLiteralsFrom_binds engine handle info
    update.placeholder 0 (update.assignedLiterals info) (holder, middle)
  simp only [Session.bindLiterals]
  rcases ran : (Session.bindLiteralsFrom engine handle info update.placeholder 0
    (update.assignedLiterals info)).run (holder, middle) with ⟨failure | _, held, after⟩
  · rw [ran] at literals
    exact ⟨first ++ second, expressions.andThen (literals.of_error _)⟩
  rw [ran] at literals
  obtain ⟨third, passes, bound⟩ := bindCondition_bound engine handle
    (update.compiledCondition engine.dialect) after
  have condition := Session.Binds.of_inline passes bound
    (fun _ => Binding.blob?_of_mem_ofCondition) held
  exact ⟨_, expressions.andThen (literals.andThen condition)⟩

theorem bindAndRun_ran (engine : Engine σ) (update : Update) (statement : Statement)
    (info : ColumnInformation) (session : Session σ) :
    let start := (BlobHolder.empty, session)
    let step := update.bindAndRun engine statement (update.writableLiterals info) info
      (update.compiledCondition engine.dialect)
    ∃ events, Session.Passes engine session (step.run start).1 events (step.run start).2.2 ∧
      Ran statement.handle (update.bindings engine.dialect info) update.options.mode? events
        (step.run start).1 ∧
      (step.run start).2.1.blobs = (requests events).filterMap Request.blob? := by
  intro start step
  obtain ⟨front, binds⟩ := bindAll_binds engine update statement.handle info start
  simp only [step, bindAndRun_eq, Step.run_bind]
  rcases bound : (update.bindAll engine statement.handle (update.writableLiterals info) info
    (update.compiledCondition engine.dialect)).run start with ⟨failure | _, holder, later⟩
  · rw [bound] at binds
    exact ⟨front, binds.passes, .unbound failure binds.bound, binds.held⟩
  rw [bound] at binds
  obtain ⟨back, rest, passes, asked, columns⟩ := Statement.execute_passes engine statement
    .empty (update.options.withAlreadyPrepared true) rfl later
  have noneHeld : (requests back).filterMap Request.blob? = [] := by
    rw [List.filterMap_eq_nil_iff]
    intro request listed
    rw [asked] at listed
    exact Request.blob?_of_stage (Statement.stage_ne_bind_of_mem_run columns listed)
  simp only [run_executing]
  refine ⟨front ++ back, binds.passes.andThen (passes.map fun _ => ()),
    .of_bound binds.bound rfl asked columns _, ?_⟩
  rw [requests_append, List.filterMap_append, noneHeld, List.append_nil]
  exact binds.held

/-- From the preparation of the statement on, with the events up to the release and
the release itself.  The outcome tells the handle that has run. -/
inductive Assigning (update : Update) (dialect : Dialect) (info : ColumnInformation) :
    Except Failure (Option Handle) → List Event → List Event → Prop where
  | unprepared (handle : Handle) (failure : Failure) :
      Assigning update dialect info (.error failure)
        [.exchange (.prepare handle (update.statementText dialect info) {}) (.error failure)] []
  | prepared (handle : Handle) {events : List Event} {outcome : Except Failure Unit}
      (ran : Ran handle (update.bindings dialect info) update.options.mode? events outcome) :
      Assigning update dialect info (outcome.map fun _ => some handle)
        (.exchange (.prepare handle (update.statementText dialect info) {}) (.ok ()) :: events)
        (Session.releaseAfter handle events)

theorem Assigning.requests_eq {update : Update} {dialect : Dialect} {info : ColumnInformation}
    {outcome : Except Failure (Option Handle)} {events release : List Event}
    (assigning : Assigning update dialect info outcome events release) :
    ∃ handle rest, requests (events ++ release) =
        .prepare handle (update.statementText dialect info) {} :: rest ∧
      ∀ request ∈ rest, request.stage ∈ [Request.Stage.bind, .mode, .run, .columns, .release] := by
  cases assigning with
  | unprepared handle failure => exact ⟨handle, [], rfl, by simp⟩
  | @prepared handle events outcome ran =>
    refine ⟨handle, requests (events ++ Session.releaseAfter handle events), rfl, ?_⟩
    intro request asked
    rw [requests_append, List.mem_append] at asked
    rcases asked with during | after
    · exact List.mem_append_left [.release] (ran.stage_of_mem during)
    · rw [Session.eq_of_mem_releaseAfter after]
      simp [Request.stage]

/-- Either the handle is never run, and the outcome is the refusal that prevents it,
or everything is bound to it before it is run. -/
theorem Assigning.run_cases {update : Update} {dialect : Dialect} {info : ColumnInformation}
    {outcome : Except Failure (Option Handle)} {events release : List Event}
    (assigning : Assigning update dialect info outcome events release) :
    (∃ handle failure, outcome = .error failure ∧
      ((∃ sql options, events ++ release =
          [.exchange (.prepare handle sql options) (.error failure)]) ∨
        ∃ binding : Binding, binding.event handle (.error failure) ∈ events) ∧
      ∀ request ∈ requests (events ++ release), request.stage ≠ .run) ∨
    ∃ handle rest, requests (events ++ release) =
        .prepare handle (update.statementText dialect info) {} ::
          ((update.bindings dialect info).map (Binding.request handle) ++
            Statement.modeRequests handle update.options.mode? ++ .run handle none :: rest) ∧
      (∀ request ∈ rest, request.stage ∈ [Request.Stage.columns, .release]) ∧
      ∀ ran, outcome = .ok ran → ran = some handle := by
  cases assigning with
  | unprepared handle failure =>
    exact .inl ⟨handle, failure, rfl, .inl ⟨_, _, rfl⟩,
      by simp [requests, Event.request?, Request.stage]⟩
  | @prepared handle events outcome ran =>
    have released : ∀ request ∈ requests (Session.releaseAfter handle events),
        request = .releaseBlobs handle := fun _ => Session.eq_of_mem_releaseAfter
    generalize Session.releaseAfter handle events = release at released ⊢
    rw [List.cons_append, requests_exchange, requests_append]
    cases ran with
    | unbound failure bound =>
      obtain ⟨binding, _, tried⟩ := bound.refused_of_error rfl
      refine .inl ⟨handle, failure, rfl, .inr ⟨binding, List.mem_cons_of_mem _ tried⟩, ?_⟩
      intro request asked
      rcases List.mem_cons.mp asked with rfl | asked
      · simp [Request.stage]
      rcases List.mem_append.mp asked with during | after
      · simp [bound.stage_of_mem during]
      · simp [released request after, Request.stage]
    | @ran back rest outcome asked columns =>
      refine .inr ⟨handle, rest ++ requests release, ?_, ?_, ?_⟩
      · rw [requests_append, Binding.requests_map_event, asked]
        simp only [List.append_assoc, List.cons_append]
      · intro request later
        rcases List.mem_append.mp later with column | after
        · have stage : request.stage = .columns := columns request column
          simp [stage]
        · simp [released request after, Request.stage]
      · intro ran same
        cases outcome with
        | ok _ => cases same; rfl
        | error failure => cases same

inductive Course (update : Update) (dialect : Dialect) :
    Except Failure (Option Handle) → List Event → List Event → Prop where
  | unknown (failure : Failure) :
      Course update dialect (.error failure)
        [.exchange (.columnInformation update.table) (.error failure)] []
  | nothingLeft (info : ColumnInformation) (emissions : List Emission)
      (nothing : update.assignments info = []) :
      Course update dialect (.ok none)
        (.exchange (.columnInformation update.table) (.ok info) :: told emissions) []
  | assigning (info : ColumnInformation) (emissions : List Emission)
      {outcome : Except Failure (Option Handle)} {events release : List Event}
      (something : update.assignments info ≠ [])
      (assigning : Assigning update dialect info outcome events release) :
      Course update dialect outcome
        (.exchange (.columnInformation update.table) (.ok info) :: told emissions ++ events) release

def affected (engine : Engine σ) (state : σ) : Option Handle → Nat
  | none => 0
  | some handle => engine.rowCount state handle

theorem assigning_of_run (engine : Engine σ) (update : Update) (info : ColumnInformation)
    (session : Session σ) :
    ∃ outcome events release middle later,
      Session.Passes engine session outcome events middle ∧
      Session.Leads engine middle release later ∧
      Assigning update engine.dialect info outcome events release ∧
      (do
        let statement ← Statement.prepare engine (update.statementText engine.dialect info) {}
        let (ran, holder) ← Step.beside BlobHolder.empty
          (update.bindAndRun engine statement (update.writableLiterals info) info
            (update.compiledCondition engine.dialect))
        Session.releaseHeld engine statement.handle holder
        Step.ofExcept ran
        Session.reading fun state => engine.rowCount state statement.handle).run session =
          (outcome.map (affected engine later.state), later) := by
  obtain ⟨handle, answer, middle, prepared, asked⟩ := Statement.prepare_passes engine
    (update.statementText engine.dialect info) {} session
  rw [Step.run_bind, prepared]
  cases answer with
  | error failure =>
    exact ⟨_, _, [], middle, middle, asked.error_cast, .refl middle,
      .unprepared handle failure, rfl⟩
  | ok _ =>
    obtain ⟨events, passes, ran, held⟩ := bindAndRun_ran engine update
      { handle := handle, prepareOptions := {} } info middle
    simp only [Except.map, Step.run_bind, Step.run_beside]
    rcases bound : (update.bindAndRun engine { handle := handle, prepareOptions := {} }
      (update.writableLiterals info) info (update.compiledCondition engine.dialect)).run
        (.empty, middle) with ⟨outcome, holder, after⟩
    rw [bound] at passes ran held
    obtain ⟨later, released, leads⟩ :=
      Session.releaseHeld_leads engine handle events holder held after
    refine ⟨_, _, Session.releaseAfter handle events, after, later,
      (asked.andThen passes).map fun _ => some handle, leads, .prepared handle ran, ?_⟩
    simp only [released]
    cases outcome with
    | ok _ => rfl
    | error failure => rfl

/-- A query that sets nothing is refused before the engine hears of it. -/
theorem run_execute_of_assignsNothing (engine : Engine σ) (update : Update) (session : Session σ)
    (nothing : assignsNothing update.literals update.expressions = true) :
    (update.execute engine).run session =
      (.error (.validation ("UPDATE " ++ update.table ++ ": SET clause cannot be empty")),
        session) := by
  rw [execute, Step.run_bind, Step.run_ofExcept, validate, if_pos nothing]

theorem since_execute_of_assignsNothing (engine : Engine σ) (update : Update) (session : Session σ)
    (nothing : assignsNothing update.literals update.expressions = true) :
    ((update.execute engine).run session).2.since session = [] := by
  rw [run_execute_of_assignsNothing engine update session nothing]
  exact (Session.Leads.refl session : Session.Leads engine _ _ _).since_eq

theorem execute_course (engine : Engine σ) (update : Update) (session : Session σ)
    (sets : assignsNothing update.literals update.expressions = false) :
    ∃ outcome events release middle later,
      Session.Passes engine session outcome events middle ∧
      Session.Leads engine middle release later ∧
      Course update engine.dialect outcome events release ∧
      (update.execute engine).run session =
        (outcome.map (affected engine later.state), later) := by
  have valid : update.validate = .ok () := by rw [validate, sets]; rfl
  have reported : (Session.columnInformation engine update.table).run session =
      ((engine.answer (.columnInformation update.table) session.state).1,
        session.answered engine (.columnInformation update.table)) := rfl
  have first : Session.Passes engine session
      (engine.answer (.columnInformation update.table) session.state).1 _ _ :=
    .ask session (.columnInformation update.table) _ rfl
  simp only [execute, Step.run_bind, Step.run_ofExcept, valid, reported, Session.run_notifyAll]
  generalize session.answered engine (.columnInformation update.table) = informed at first
  cases answer : (engine.answer (.columnInformation update.table) session.state).1 with
  | error failure =>
    rw [answer] at first
    exact ⟨_, _, [], informed, informed, first.error_cast, .refl informed, .unknown failure, rfl⟩
  | ok info =>
    rw [answer] at first
    have noted : Session.Passes engine session (.ok () : Except Failure Unit) _ _ :=
      first.andThen (.note informed ((update.identityNotices info).map Emission.reported) ())
    simp only []
    by_cases nothing : update.assignments info = []
    · have empty := (assignsNothing_writableLiterals update info).mpr nothing
      simp only [if_pos empty, Session.notify, Step.run_bind, Session.run_notifyAll,
        Step.run_pure]
      refine ⟨_, _, [], _, _, noted.andThen (.note _ _ none), .refl _, ?_, rfl⟩
      rw [List.append_assoc, ← told_append]
      exact .nothingLeft info _ nothing
    · have left := mt (assignsNothing_writableLiterals update info).mp nothing
      obtain ⟨outcome, events, release, middle, later, passes, released, assigning, ran⟩ :=
        assigning_of_run engine update info (informed.note _)
      simp only [if_neg left]
      exact ⟨outcome, _, release, middle, later, noted.andThen passes, released,
        .assigning info _ nothing assigning, ran⟩

theorem execute_of_reported (engine : Engine σ) (update : Update) (info : ColumnInformation)
    (session : Session σ) (sets : assignsNothing update.literals update.expressions = false)
    (reported : (engine.answer (.columnInformation update.table) session.state).1 = .ok info) :
    ∃ outcome emissions events release,
      ((update.execute engine).run session).2.since session =
        .exchange (.columnInformation update.table) (.ok info) ::
          (told emissions ++ (events ++ release)) ∧
      (update.assignments info = [] ∧ events = [] ∧ release = [] ∨
        update.assignments info ≠ [] ∧
          Assigning update engine.dialect info outcome events release) := by
  obtain ⟨outcome, events, release, middle, later, passes, released, course, ran⟩ :=
    execute_course engine update session sets
  have all : ((update.execute engine).run session).2.since session = events ++ release := by
    rw [ran]
    exact (passes.toLeads.trans released).since_eq
  have answered := passes.genuine
  rw [all]
  cases course with
  | unknown failure =>
    have refused := answered.1
    rw [Event.Genuine, reported] at refused
    cases refused
  | nothingLeft known emissions nothing =>
    have same := answered.1
    rw [Event.Genuine, reported] at same
    cases same
    exact ⟨.ok none, emissions, [], [], rfl, .inl ⟨nothing, rfl, rfl⟩⟩
  | assigning known emissions something assigning =>
    have same := answered.1
    rw [Event.Genuine, reported] at same
    cases same
    refine ⟨outcome, emissions, _, release, ?_, .inr ⟨something, assigning⟩⟩
    rw [List.append_assoc, List.cons_append]

/-- Where the schema knows the table, exactly one statement is prepared, and only if
it assigns something. -/
theorem execute_requests (engine : Engine σ) (update : Update) (info : ColumnInformation)
    (session : Session σ)
    (reported : (engine.answer (.columnInformation update.table) session.state).1 = .ok info) :
    let asked := requests (((update.execute engine).run session).2.since session)
    (update.assignments info = [] → asked = [] ∨ asked = [.columnInformation update.table]) ∧
    (update.assignments info ≠ [] → ∃ handle rest,
      asked = .columnInformation update.table ::
        .prepare handle (update.statementText engine.dialect info) {} :: rest ∧
      ∀ request ∈ rest,
        request.stage ∈ [Request.Stage.bind, .mode, .run, .columns, .release]) := by
  intro asked
  by_cases unset : assignsNothing update.literals update.expressions = true
  · have nothing := assignments_eq_nil_of_assignsNothing unset info
    refine ⟨fun _ => .inl ?_, fun something => absurd nothing something⟩
    simp only [asked, since_execute_of_assignsNothing engine update session unset, requests_nil]
  obtain ⟨outcome, emissions, events, release, all, course⟩ :=
    execute_of_reported engine update info session (by simpa using unset) reported
  have listed : asked = .columnInformation update.table :: requests (events ++ release) := by
    simp only [asked, all]
    rw [requests_exchange, requests_append, requests_told, List.nil_append]
  rcases course with ⟨nothing, rfl, rfl⟩ | ⟨something, assigning⟩
  · exact ⟨fun _ => .inr listed, fun something => absurd nothing something⟩
  · refine ⟨fun nothing => absurd nothing something, fun _ => ?_⟩
    obtain ⟨handle, rest, prepared, others⟩ := assigning.requests_eq
    exact ⟨handle, rest, by rw [listed, prepared], others⟩

end Update

end SqlBridge
