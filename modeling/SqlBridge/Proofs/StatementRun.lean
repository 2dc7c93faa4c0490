import SqlBridge.Proofs.Transcript

/-!
# What the run of a statement asks for

A run is one request to run the handle and, if that succeeds, requests about the
columns of its result and nothing else.  It passes: the first failure that the
engine shows is the outcome.
-/

set_option autoImplicit false

namespace SqlBridge

open Transcript

variable {σ : Type} (engine : Engine σ)

namespace Session

/-- A property of steps that a sequence of steps has as soon as each of them has it. -/
structure Compositional (J : {β : Type} → Step (Session σ) β → Prop) : Prop where
  pure : ∀ {β : Type} (answer : β), J (Pure.pure answer)
  reading : ∀ {β : Type} (view : σ → β), J (Session.reading view)
  notifyAll : ∀ notices, J (Session.notifyAll notices)
  bind : ∀ {β γ : Type} {step : Step (Session σ) β} {next : β → Step (Session σ) γ},
    J step → (∀ answer, J (next answer)) → J (step >>= next)

namespace Compositional

variable {engine : Engine σ} {J : {β : Type} → Step (Session σ) β → Prop} {handle : Handle}

theorem registerBuffer (closed : Compositional J)
    (bindColumn : ∀ index buffer, J (bindColumn engine handle index buffer))
    (index : Nat) (column : Column) : J (registerBuffer engine handle index column) := by
  unfold Session.registerBuffer
  cases column.kind.buffer? with
  | some buffer => exact bindColumn index buffer
  | none => exact closed.notifyAll _

theorem bindResultColumn (closed : Compositional J)
    (columnMeta : ∀ index, J (columnMeta engine handle index))
    (bindColumn : ∀ index buffer, J (bindColumn engine handle index buffer)) (index : Nat) :
    J (bindResultColumn engine handle index) := by
  apply closed.bind (columnMeta index)
  intro column
  apply closed.bind (closed.registerBuffer bindColumn index (.ofMeta column))
  intro _
  exact closed.pure (Column.ofMeta column)

theorem bindResultColumnsFrom (closed : Compositional J)
    (columnMeta : ∀ index, J (columnMeta engine handle index))
    (bindColumn : ∀ index buffer, J (bindColumn engine handle index buffer))
    (index remaining : Nat) : J (bindResultColumnsFrom engine handle index remaining) := by
  induction remaining generalizing index with
  | zero => exact closed.pure []
  | succ remaining ih =>
    apply closed.bind (closed.bindResultColumn columnMeta bindColumn index)
    intro column
    apply closed.bind (ih (index + 1))
    intro columns
    exact closed.pure (column :: columns)

theorem bindResultColumns (closed : Compositional J)
    (columnMeta : ∀ index, J (columnMeta engine handle index))
    (bindColumn : ∀ index buffer, J (bindColumn engine handle index buffer)) :
    J (bindResultColumns engine handle) := by
  apply closed.bind (closed.reading _)
  intro count
  exact closed.bindResultColumnsFrom columnMeta bindColumn 0 count

end Compositional

def AboutColumns (request : Request) : Prop :=
  request.stage = .columns

theorem compositional_asks (allowed : Request → Prop) :
    Compositional fun step => Asks engine allowed step where
  pure := .pure
  reading := fun view => .reading fun session => view session.state
  notifyAll := .notifyAll
  bind := .bind

theorem asks_bindResultColumns (handle : Handle) :
    Asks engine AboutColumns (bindResultColumns engine handle) := by
  apply (compositional_asks engine AboutColumns).bindResultColumns
  · intro index session
    exact ⟨_, .ask session (.columnMeta handle index) _ rfl, by simp [AboutColumns, Request.stage]⟩
  · intro index buffer session
    exact ⟨_, .ask session (.bindColumn handle index buffer) _ rfl,
      by simp [AboutColumns, Request.stage]⟩

theorem asks_logRun (allowed : Request → Prop) (handle : Handle) (arguments : Option ParamList)
    (started : Nat) : Asks engine allowed (Statement.logRun engine handle arguments started) := by
  intro session
  rw [Statement.logRun, Step.run_change]
  obtain ⟨emissions, leads⟩ := leads_logged engine _ session
  exact ⟨told emissions, .of_leads_of_none leads (firstFailure?_told engine _ _) (), by simp⟩

/-- A preparation uses up its number even if it is refused. -/
theorem passes_prepare (text : String) (options : PrepareOptions) (session : Session σ) :
    let handle : Handle := ⟨session.prepared⟩
    let answer := (engine.answer (.prepare handle text options) session.state).1
    ∃ later, (prepare engine text options).run session = (answer.map fun _ => handle, later) ∧
      Passes engine session answer [.exchange (.prepare handle text options) answer] later ∧
      later.prepared = session.prepared + 1 := by
  intro handle answer
  let numbered : Session σ := { session with prepared := session.prepared + 1 }
  have asked : Passes engine numbered answer _ _ :=
    .ask numbered (.prepare handle text options) _ rfl
  have ran : (prepare engine text options).run session =
      (Step.ofExcept answer >>= fun _ => pure handle).run
        (numbered.answered engine (.prepare handle text options)) := rfl
  refine ⟨numbered.answered engine (.prepare handle text options), ?_,
    ⟨⟨asked.transcript, asked.state, asked.genuine⟩, asked.failure, asked.stops⟩, rfl⟩
  rw [ran, Step.run_bind, Step.run_ofExcept]
  clear ran asked
  cases answer with
  | ok _ => rfl
  | error failure => rfl

end Session

namespace Statement

open Session

theorem prepare_passes (text : String) (options : PrepareOptions) (session : Session σ) :
    ∃ handle answer later,
      (prepare engine text options).run session =
        (answer.map fun _ => { handle := handle, prepareOptions := options }, later) ∧
      Passes engine session answer [.exchange (.prepare handle text options) answer] later := by
  obtain ⟨later, ran, passes, _⟩ := passes_prepare engine text options session
  refine ⟨_, _, later, ?_, passes⟩
  rw [prepare, Step.run_bind, ran]
  rcases (engine.answer (.prepare ⟨session.prepared⟩ text options) session.state).1 with
    failure | _
  · rfl
  · rfl

theorem run_failureRecord (handle : Handle) (session : Session σ) :
    ∃ emissions, (failureRecord engine handle).run session =
      (.ok (engine.failureRecord session.state handle), session.note (told emissions)) := by
  refine ⟨(Notice.ofReconciliation (engine.connectionError session.state)
      (some (engine.statementError session.state handle))).map Emission.reported ++
    [.reported (.executeFailed (engine.sql session.state handle)
      (engine.failureRecord session.state handle))], ?_⟩
  simp only [failureRecord, Step.run_bind, Session.run_reading, notify, run_notifyAll]
  simp [note, told, Engine.failureRecord]

theorem run_runHandle (handle : Handle) (arguments : Option ParamList) (session : Session σ) :
    (runHandle engine handle arguments).run session =
      (if (engine.answer (.run handle arguments) session.state).1 = true then do
        let columns ← bindResultColumns engine handle
        logRun engine handle arguments (engine.clock session.state)
        return columns
      else do
        Step.fail (.execution (← failureRecord engine handle))).run
          (session.answered engine (.run handle arguments)) := rfl

theorem runHandle_passes (handle : Handle) (arguments : Option ParamList) (session : Session σ) :
    ∃ answer back, Passes engine session ((runHandle engine handle arguments).run session).1
        (.exchange (.run handle arguments) answer :: back)
        ((runHandle engine handle arguments).run session).2 ∧
      ∀ request ∈ requests back, AboutColumns request := by
  refine ⟨(engine.answer (.run handle arguments) session.state).1, ?_⟩
  rw [run_runHandle]
  by_cases succeeded : (engine.answer (.run handle arguments) session.state).1 = true
  · have first : Passes engine session (.ok () : Except Failure Unit) _ _ :=
      .ask session (.run handle arguments) _ (by simp [Request.failure?, failureOf, succeeded])
    have rest : Asks engine AboutColumns _ :=
      (asks_bindResultColumns engine handle).bind fun columns =>
        (asks_logRun engine AboutColumns handle arguments (engine.clock session.state)).bind
          fun _ => .pure columns
    obtain ⟨back, passes, asks⟩ := rest (session.answered engine (.run handle arguments))
    rw [if_pos succeeded]
    exact ⟨back, first.andThen passes, asks⟩
  · have first : Passes engine session (.error (.execution (engine.failureRecord
        (engine.answer (.run handle arguments) session.state).2 handle)) : Except Failure Unit)
        _ _ :=
      .ask session (.run handle arguments) _ (by simp [Request.failure?, failureOf, succeeded])
    obtain ⟨emissions, ran⟩ := run_failureRecord engine handle
      (session.answered engine (.run handle arguments))
    rw [if_neg succeeded, Step.run_bind_ok ran]
    exact ⟨told emissions, first.andNote emissions, by simp⟩

def modeRequests (handle : Handle) (mode : Option FetchMode) : List Request :=
  (mode.map (Request.setFetchMode handle)).toList

theorem stage_of_mem_modeRequests {handle : Handle} {mode : Option FetchMode} {request : Request}
    (asked : request ∈ modeRequests handle mode) : request.stage = .mode := by
  cases mode with
  | none => cases asked
  | some mode =>
    rw [modeRequests, Option.map_some, Option.toList_some, List.mem_singleton] at asked
    rw [asked, Request.stage]

theorem stage_ne_bind_of_mem_run {handle : Handle} {mode : Option FetchMode}
    {arguments : Option ParamList} {rest : List Request}
    (columns : ∀ request ∈ rest, AboutColumns request) {request : Request}
    (asked : request ∈ modeRequests handle mode ++ .run handle arguments :: rest) :
    request.stage ≠ .bind := by
  rcases List.mem_append.mp asked with before | after
  · simp [stage_of_mem_modeRequests before]
  · rcases List.mem_cons.mp after with rfl | later
    · simp [Request.stage]
    · have stage : request.stage = .columns := columns request later
      simp [stage]

theorem applyFetchMode_passes (mode : Option FetchMode) (statement : Statement)
    (session : Session σ) :
    ∃ events changed, Passes engine session
        ((applyFetchMode engine mode).run (statement, session)).1 events
        ((applyFetchMode engine mode).run (statement, session)).2.2 ∧
      (applyFetchMode engine mode).run (statement, session) =
        (.ok (), (changed, ((applyFetchMode engine mode).run (statement, session)).2.2)) ∧
      changed.handle = statement.handle ∧
      requests events = modeRequests statement.handle mode := by
  cases mode with
  | none => exact ⟨[], statement, .pure session (), rfl, rfl, rfl⟩
  | some mode =>
    exact ⟨_, { statement with fetchMode := mode },
      .ask session (.setFetchMode statement.handle mode) (.ok ()) rfl, rfl, rfl, rfl⟩

theorem execute_passes (statement : Statement) (arguments : ParamList) (options : QueryOptions)
    (prepared : options.alreadyPrepared = true) (session : Session σ) :
    ∃ events back, Passes engine session
        ((execute engine arguments options).run (statement, session)).1 events
        ((execute engine arguments options).run (statement, session)).2.2 ∧
      requests events = modeRequests statement.handle options.mode? ++
        .run statement.handle arguments.supplied? :: back ∧
      ∀ request ∈ back, AboutColumns request := by
  obtain ⟨front, changed, first, applied, sameHandle, modeAsked⟩ :=
    applyFetchMode_passes engine options.mode? statement session
  generalize ((applyFetchMode engine options.mode?).run (statement, session)).2.2 = middle
    at first applied
  rw [applied] at first
  obtain ⟨answer, back, second, asks⟩ :=
    runHandle_passes engine changed.handle arguments.supplied? middle
  rw [← sameHandle] at modeAsked ⊢
  simp only [execute, settleUnless, prepared, if_pos, Step.run_bind, Step.run_pure, applied,
    Step.run_changeOwn, Step.run_own, Step.run_lift, Step.run_within]
  rcases ran : (runHandle engine changed.handle arguments.supplied?).run middle with
    ⟨failure | columns, after⟩
  · rw [ran] at second
    simp only [withoutResult, ran]
    refine ⟨_, requests back, first.andThen second.error_cast, ?_, asks⟩
    rw [requests_append, modeAsked, requests_exchange]
  · rw [ran] at second
    simp only [withoutResult, ran, run_notifyAll]
    refine ⟨_, requests back, first.andThen (second.andThen (.note after _ true)), ?_, asks⟩
    rw [requests_append, modeAsked, List.cons_append, requests_exchange, requests_append,
      requests_told, List.append_nil]

end Statement

end SqlBridge
