import Mathlib.Data.List.Forall2
import Mathlib.Data.List.Induction
import SqlBridge.Session.Script
import SqlBridge.Proofs.StatementCall
import SqlBridge.Proofs.VisibleColumns

/-!
# What callers see of a result

The columns, the positions of the visible ones and their names belong together in
every state that calls can lead to, failed calls included, and every fetched row
is the visible part of a native one.
-/

set_option autoImplicit false

namespace SqlBridge

open Transcript

variable {σ α β : Type}

namespace Statement

/-! ## Which calls change a result -/

def Steady (step : Step (Statement × Session σ) α) : Prop :=
  ∀ start, (step.run start).2.1.result = start.1.result

namespace Steady

theorem pure (answer : α) : Steady (Pure.pure answer : Step (Statement × Session σ) α) :=
  fun _ => rfl

theorem lift (step : Step (Session σ) α) :
    Steady (liftM step : Step (Statement × Session σ) α) :=
  fun _ => rfl

theorem changeOwn {update : Statement → Statement}
    (same : ∀ statement, (update statement).result = statement.result) :
    Steady (Step.changeOwn update : Step (Statement × Session σ) Unit) :=
  fun start => same start.1

theorem bind {step : Step (Statement × Session σ) α} {next : α → Step (Statement × Session σ) β}
    (first : Steady step) (second : ∀ answer, Steady (next answer)) : Steady (step >>= next) := by
  intro start
  have kept := first start
  rw [Step.run_bind]
  rcases ran : step.run start with ⟨failure | answer, middle⟩
  · rw [ran] at kept
    exact kept
  · rw [ran] at kept
    exact (second answer middle).trans kept

theorem own {next : Statement → Step (Statement × Session σ) β}
    (second : ∀ statement, Steady (next statement)) : Steady (Step.own >>= next) :=
  bind (fun _ => rfl) second

end Steady

variable (engine : Engine σ)

theorem steady_settlePrepare : Steady (settlePrepare engine) := by
  apply Steady.own
  intro statement
  split
  · apply Steady.bind (.lift _)
    intro handle
    exact .changeOwn fun _ => rfl
  · exact .pure ()

theorem steady_setFetchMode (mode : FetchMode) : Steady (setFetchMode engine mode) := by
  apply Steady.own
  intro statement
  apply Steady.bind (.lift _)
  intro _
  exact .changeOwn fun _ => rfl

theorem result_requireInsecure (statement : Statement) :
    statement.requireInsecure.result = statement.result := by
  unfold requireInsecure
  split
  · rfl
  · rfl

/-- Only an execution changes the result. -/
theorem steady_step {call : Call}
    (other : ∀ arguments options, call ≠ .execute arguments options) :
    Steady (call.step engine) := by
  cases call with
  | execute arguments options => exact absurd rfl (other arguments options)
  | requireInsecure => exact .changeOwn result_requireInsecure
  | bindingHandle =>
    apply Steady.bind (steady_settlePrepare engine)
    intro _
    exact .own fun statement => .pure statement.handle
  | bindValue placeholder value =>
    intro start
    rw [Call.step, bindValue_eq]
    apply Steady.bind (steady_settlePrepare engine)
    intro _
    exact .own fun statement => .lift _
  | setFetchMode mode => exact steady_setFetchMode engine mode
  | fetch => exact .own fun statement => .lift _
  | fetchAll => exact .own fun statement => .lift _
  | fetchColumn index => exact .own fun statement => .lift _
  | fetchAllKeyed keyIndex valueIndex =>
    apply Steady.own
    intro statement
    apply Steady.bind (.lift _)
    intro count
    split
    · apply Steady.bind (steady_setFetchMode engine .keyPair)
      intro _
      exact .bind (.lift _) fun pairs => .pure _
    · apply Steady.bind (steady_setFetchMode engine .num)
      intro _
      exact .lift _

inductive Executed (options : QueryOptions) (start : Statement) :
    Except Failure Bool → Statement → Prop where
  | unready {stop : Statement} (failure : Failure) (same : stop.result = start.result) :
      Executed options start (.error failure) stop
  | failed (failure : Failure) (statement : Statement) :
      Executed options start (.error failure) statement.withoutResult
  | ran (columns : List Column) (statement : Statement) :
      Executed options start (.ok true)
        (statement.withResult columns (visiblePositions columns options.dropColumns))

theorem execute_executed (arguments : ParamList) (options : QueryOptions)
    (start : Statement × Session σ) :
    Executed options start.1 ((execute engine arguments options).run start).1
      ((execute engine arguments options).run start).2.1 := by
  have readied : Steady (settleUnless engine options.alreadyPrepared >>= fun _ =>
      applyFetchMode engine options.mode?) := by
    apply Steady.bind
    · unfold settleUnless
      split
      · exact .pure ()
      · exact steady_settlePrepare engine
    · intro _
      cases options.mode? with
      | none => exact .pure ()
      | some mode => exact steady_setFetchMode engine mode
  rw [execute_eq]
  unfold runReady
  rw [← Step.bind_assoc]
  rcases ready : (settleUnless engine options.alreadyPrepared >>= fun _ =>
      applyFetchMode engine options.mode?).run start with ⟨failure | _, middle⟩
  · rw [Step.run_bind_error ready]
    have same := readied start
    rw [ready] at same
    exact .unready failure same
  · rw [Step.run_bind_ok ready]
    simp only [Step.run_bind, Step.run_changeOwn, Step.run_own, Step.run_lift, Step.run_within]
    rcases (runHandle engine middle.1.withoutResult.handle arguments.supplied?).run middle.2 with
      ⟨failure | columns, later⟩
    · exact .failed failure middle.1
    · simp only [Session.run_notifyAll, Step.run_pure]
      exact .ran columns _

/-- A call leaves the result as it is, or it is an execution, which clears it or sets it anew. -/
theorem step_result (call : Call) (start : Statement × Session σ) :
    ((call.step engine).run start).2.1.result = start.1.result ∨
      (∃ statement : Statement, ((call.step engine).run start).2.1 = statement.withoutResult) ∨
      ∃ arguments options columns, ∃ statement : Statement, call = .execute arguments options ∧
        ((execute engine arguments options).run start).1 = .ok true ∧
        ((execute engine arguments options).run start).2.1 =
          statement.withResult columns (visiblePositions columns options.dropColumns) := by
  by_cases executes : ∃ arguments options, call = .execute arguments options
  · obtain ⟨arguments, options, rfl⟩ := executes
    have executed := execute_executed engine arguments options start
    rw [Call.step]
    generalize stopped : ((execute engine arguments options).run start).2.1 = stop at executed ⊢
    generalize answered : ((execute engine arguments options).run start).1 = outcome at executed
    cases executed with
    | unready failure same => exact .inl same
    | failed failure statement => exact .inr (.inl ⟨statement, rfl⟩)
    | ran columns statement =>
      exact .inr (.inr ⟨arguments, options, columns, statement, rfl, answered, stopped⟩)
  · left
    apply steady_step
    intro arguments options same
    exact executes ⟨arguments, options, same⟩

/-- The result shown after the calls is the one that an execution among them, which dropped
these columns, has left, and no call since has changed it. -/
def ProducedBy (calls : List Call) (opening : Statement × Session σ) (dropped : List String) :
    Prop :=
  ∃ before arguments options rest, calls = before ++ .execute arguments options :: rest ∧
    options.dropColumns = dropped ∧
    ((execute engine arguments options).run (after engine before opening)).1 = .ok true ∧
    ∀ between later, rest = between ++ later →
      (after engine between
        ((execute engine arguments options).run (after engine before opening)).2).1.result =
      ((execute engine arguments options).run (after engine before opening)).2.1.result

theorem ProducedBy.step {calls : List Call} {opening : Statement × Session σ}
    {dropped : List String} {call : Call} (produced : ProducedBy engine calls opening dropped)
    (same : ((call.step engine).run (after engine calls opening)).2.1.result =
      (after engine calls opening).1.result) :
    ProducedBy engine (calls ++ [call]) opening dropped := by
  obtain ⟨before, arguments, options, rest, rfl, drops, answered, kept⟩ := produced
  refine ⟨before, arguments, options, rest ++ [call], by simp, drops, answered, ?_⟩
  intro between later split
  rcases List.append_eq_append_iff.mp split with ⟨more, longer, last⟩ | ⟨more, shorter, _⟩
  · cases more with
    | nil =>
      rw [longer, List.append_nil]
      exact kept rest [] (by simp)
    | cons only others =>
      obtain ⟨rfl, none⟩ := List.cons.inj last
      obtain ⟨rfl, rfl⟩ := List.append_eq_nil_iff.mp none.symm
      rw [after_append] at same
      rw [longer, after_append]
      exact same.trans (kept rest [] (by simp))
  · exact kept between more shorter

def ShapedAfter (calls : List Call) (opening : Statement × Session σ) : Prop :=
  ∃ dropped, Shaped (after engine calls opening).1 dropped ∧
    ((after engine calls opening).1.columns = [] ∨ ProducedBy engine calls opening dropped)

theorem shapedAfter_of_steady {calls : List Call} {opening : Statement × Session σ} {call : Call}
    (shaped : ShapedAfter engine calls opening)
    (same : ((call.step engine).run (after engine calls opening)).2.1.result =
      (after engine calls opening).1.result) :
    ShapedAfter engine (calls ++ [call]) opening := by
  obtain ⟨dropped, shape, origin⟩ := shaped
  refine ⟨dropped, ?_, ?_⟩
  · rw [after_concat]
    exact shape.of_result_eq same
  · rcases origin with none | produced
    · left
      rw [after_concat]
      exact (congrArg Prod.fst same).trans none
    · exact .inr (produced.step engine same)

theorem shapedAfter_step {calls : List Call} {opening : Statement × Session σ}
    (shaped : ShapedAfter engine calls opening) (call : Call) :
    ShapedAfter engine (calls ++ [call]) opening := by
  rcases step_result engine call (after engine calls opening) with
    same | ⟨statement, cleared⟩ | ⟨arguments, options, columns, statement, rfl, answered, ran⟩
  · exact shapedAfter_of_steady engine shaped same
  · refine ⟨[], ?_, .inl ?_⟩
    · rw [after_concat, cleared]
      exact .withoutResult [] statement
    · rw [after_concat, cleared]
      rfl
  · refine ⟨options.dropColumns, ?_, .inr ⟨calls, arguments, options, [], rfl, rfl, answered, ?_⟩⟩
    · rw [after_concat, Call.step, ran]
      exact .withResult columns options.dropColumns statement
    · intro between later none
      rw [(List.append_eq_nil_iff.mp none.symm).1]
      rfl

/-! ## Rows -/

structure Shows (statement : Statement) (values : List Value) (row : Row) : Prop where
  columns : row.columns = statement.columnNames
  size : row.values.length = statement.columnNames.length
  value : ∀ (index position : Nat), statement.visible[index]? = some position →
    row.values[index]? = some (values.getD position .null)

theorem shows_rowOf {statement : Statement}
    (size : statement.columnNames.length = statement.visible.length) (values : List Value) :
    Shows statement values (statement.rowOf values) where
  columns := rfl
  size := by rw [rowOf, List.length_map, size]
  value := by
    intro index position placed
    rw [rowOf, List.getElem?_map, placed, Option.map_some]

end Statement

/-! ## Native rows in a transcript -/

def Event.fetched? : Event → Option (List Value)
  | .exchange (.fetchRow _) (.ok (some values)) => some values
  | _ => none

def Transcript.fetched (events : List Event) : List (List Value) :=
  events.filterMap Event.fetched?

namespace Statement

variable (engine : Engine σ)

/-- The rows of a walk that gathers rows are those gathered before and the native ones as
they are shown, the last one first. -/
theorem rows_of_walk {handle : Handle} {statement : Statement} {start : List Row}
    {events : List Event} {rows : List Row}
    (walk : Session.Walk handle (fun rows values => .ok (statement.rowOf values :: rows)) start
      events (.ok rows)) :
    rows.reverse = start.reverse ++ (fetched events).map statement.rowOf := by
  generalize ended : (Except.ok rows : Except Failure (List Row)) = outcome at walk
  induction walk with
  | ended total =>
    cases ended
    simp [fetched, Event.fetched?]
  | unfetched total failure => cases ended
  | refused refuses => cases ended
  | taken takes rest ih =>
    cases takes
    rw [ih ended]
    simp [fetched, Event.fetched?]

theorem fetch_shows {state stop : Statement × Session σ} {row : Option Row}
    (size : state.1.columnNames.length = state.1.visible.length)
    (ran : (Call.step engine .fetch).run state = (.ok row, stop)) :
    ∃ events, Session.Leads engine state.2 events stop.2 ∧
      List.Forall₂ (Shows stop.1) (fetched events) row.toList := by
  have asked : Session.Leads engine state.2
      [.exchange (.fetchRow state.1.handle)
        (engine.answer (.fetchRow state.1.handle) state.2.state).1]
      (state.2.answered engine (.fetchRow state.1.handle)) := .ask state.2 _
  have unfolded : (Call.step engine .fetch).run state =
      (((engine.answer (.fetchRow state.1.handle) state.2.state).1.map
        fun values => values.map state.1.rowOf),
        (state.1, state.2.answered engine (.fetchRow state.1.handle))) := by
    have fetched : (Session.fetchRow engine state.1.handle).run state.2 =
        ((engine.answer (.fetchRow state.1.handle) state.2.state).1,
          state.2.answered engine (.fetchRow state.1.handle)) := rfl
    simp only [Call.step, looking, Step.run_bind, Step.run_own, Step.run_lift, fetch, fetched]
    rcases (engine.answer (.fetchRow state.1.handle) state.2.state).1 with _ | _ <;> rfl
  rw [unfolded] at ran
  generalize (engine.answer (.fetchRow state.1.handle) state.2.state).1 = answer at asked ran
  rcases answer with failure | _ | values
  · cases ran
  · cases ran
    exact ⟨_, asked, .nil⟩
  · cases ran
    exact ⟨_, asked, .cons (shows_rowOf size values) .nil⟩

theorem fetchAll_shows {state stop : Statement × Session σ} {rows : List Row}
    (size : state.1.columnNames.length = state.1.visible.length)
    (ran : (Call.step engine .fetchAll).run state = (.ok rows, stop)) :
    ∃ events, Session.Leads engine state.2 events stop.2 ∧
      List.Forall₂ (Shows stop.1) (fetched events) rows := by
  obtain ⟨events, kept, walk⟩ := Session.foldRows_walk engine state.1.handle
    (fun rows values => .ok (state.1.rowOf values :: rows)) [] state.2
  simp only [Call.step, looking, Step.run_bind, Step.run_own, Step.run_lift, fetchAll] at ran
  rcases gathered : (Session.foldRows engine state.1.handle
    (fun rows values => .ok (state.1.rowOf values :: rows)) []).run state.2 with
    ⟨failure | total, later⟩
  · rw [gathered] at ran
    cases ran
  · rw [gathered] at ran kept walk
    cases ran
    refine ⟨events, kept.toLeads, ?_⟩
    rw [rows_of_walk walk, List.reverse_nil, List.nil_append, List.forall₂_map_right_iff]
    exact List.forall₂_same.mpr fun values _ => shows_rowOf size values

/-! ## Every state that calls lead to -/

/-- What callers see of the result after the calls, and of the rows fetched from it. -/
structure ShowsResult (calls : List Call) (opening : Statement × Session σ) : Prop where
  shaped : ShapedAfter engine calls opening
  row : ∀ row stop, (Call.step engine .fetch).run (after engine calls opening) = (.ok row, stop) →
    ∃ events, Session.Leads engine (after engine calls opening).2 events stop.2 ∧
      List.Forall₂ (Shows stop.1) (fetched events) row.toList
  rows : ∀ rows stop,
    (Call.step engine .fetchAll).run (after engine calls opening) = (.ok rows, stop) →
      ∃ events, Session.Leads engine (after engine calls opening).2 events stop.2 ∧
        List.Forall₂ (Shows stop.1) (fetched events) rows

/-- The induction is on the calls from the last one on, as each adds to what is shown after
those before it. -/
theorem shapedAfter {opening : Statement × Session σ} (unrun : opening.1.result = ([], [], []))
    (calls : List Call) : ShapedAfter engine calls opening := by
  induction calls using List.reverseRecOn with
  | nil =>
    exact ⟨[], (Shaped.withoutResult [] opening.1).of_result_eq unrun,
      .inl (congrArg Prod.fst unrun)⟩
  | append_singleton before call ih => exact shapedAfter_step engine ih call

theorem after_showsResult {sql : String} {options : PrepareOptions} {session opened : Session σ}
    {statement : Statement}
    (prepared : (prepare engine sql options).run session = (.ok statement, opened))
    (calls : List Call) : ShowsResult engine calls (statement, opened) := by
  have unrun : statement.result = ([], [], []) := by
    obtain ⟨handle, answer, later, ran, _⟩ := prepare_passes engine sql options session
    rw [prepared] at ran
    cases answer with
    | error failure => cases ran
    | ok _ =>
      cases ran
      rfl
  have shaped : ShapedAfter engine calls (statement, opened) := shapedAfter engine unrun calls
  have size : (after engine calls (statement, opened)).1.columnNames.length =
      (after engine calls (statement, opened)).1.visible.length := by
    obtain ⟨dropped, shape, _⟩ := shaped
    exact shape.size
  exact ⟨shaped, fun _ _ => fetch_shows engine size, fun _ _ => fetchAll_shows engine size⟩

/-- A result with a technical column, whose last row is short. -/
def shelf : Session Script.World where
  state := { handles := [{ runs := [{
    columns := [⟨"id", "int", none⟩, ⟨"__pos", "int", none⟩, ⟨"rowver", "varbinary", none⟩,
      ⟨"name", "nvarchar", none⟩]
    rows := [[.int 1, .int 10, .null, .text "Ann"], [.int 2]] }] }] }

theorem after_showsResult_shelf :
    let engine := Script.engine {}
    let opened := ((prepare engine "SELECT * FROM shelf" {}).run shelf).2
    let last := after engine [.execute .empty { dropColumns := ["rowver"] }, .fetch]
      (⟨⟨0⟩, {}, .assoc, false, [], [], []⟩, opened)
    (prepare engine "SELECT * FROM shelf" {}).run shelf =
      (.ok ⟨⟨0⟩, {}, .assoc, false, [], [], []⟩, opened) ∧
    ∃ stop, (Call.step engine .fetch).run last =
        (.ok (some ⟨["id", "name"], [.int 2, .null]⟩), stop) ∧
      List.Forall₂ (Shows stop.1) [[.int 2]] [⟨["id", "name"], [.int 2, .null]⟩] := by
  intro engine opened last
  have prepared : (prepare engine "SELECT * FROM shelf" {}).run shelf =
      (.ok ⟨⟨0⟩, {}, .assoc, false, [], [], []⟩, opened) := rfl
  have answered : ((Call.step engine .fetch).run last).1.toOption =
      some (some ⟨["id", "name"], [.int 2, .null]⟩) := by decide +kernel
  have native : fetched (((Call.step engine .fetch).run last).2.2.since last.2) = [[.int 2]] := by
    decide +kernel
  rcases ran : (Call.step engine .fetch).run last with ⟨failure | row, stop⟩
  · rw [ran] at answered
    cases answered
  · rw [ran] at answered native
    cases answered
    obtain ⟨events, leads, shows⟩ := (after_showsResult engine prepared
      [.execute .empty { dropColumns := ["rowver"] }, .fetch]).row _ stop ran
    rw [← leads.since_eq, native] at shows
    exact ⟨prepared, stop, rfl, shows⟩

end Statement

end SqlBridge
