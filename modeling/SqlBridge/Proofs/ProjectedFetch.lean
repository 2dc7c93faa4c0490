import SqlBridge.Proofs.ResultShape

/-!
# Fetching one column

A fetched row has a value in every visible column, however short the native row is.  So a fetch of
one visible column goes through the rows just as a fetch of whole rows does, and answers that column
of them.  A column beyond the visible ones is refused at the first row that comes.
-/

set_option autoImplicit false

namespace SqlBridge

variable {σ α β γ δ : Type}

/-! ## Two folds over the same rows -/

inductive Matches (related : α → β → Prop) : Except Failure α → Except Failure β → Prop where
  | failed (failure : Failure) : Matches related (.error failure) (.error failure)
  | answered {answer : α} {other : β} (holds : related answer other) :
      Matches related (.ok answer) (.ok other)

theorem Matches.map {related : α → β → Prop} {mapped : γ → δ → Prop} {f : α → γ} {g : β → δ}
    (keeps : ∀ answer other, related answer other → mapped (f answer) (g other))
    {outcome : Except Failure α} {other : Except Failure β} (alike : Matches related outcome other) :
    Matches mapped (outcome.map f) (other.map g) := by
  cases alike with
  | failed failure => exact .failed failure
  | answered holds => exact .answered (keeps _ _ holds)

theorem Step.run_bind_pure {ρ : Type} (step : Step ρ α) (f : α → β) (state : ρ) :
    (step >>= fun answer => pure (f answer)).run state =
      ((step.run state).1.map f, (step.run state).2) := by
  rw [run_bind]
  rcases step.run state with ⟨_ | _, later⟩ <;> rfl

namespace Session

variable (engine : Engine σ) (handle : Handle)

theorem run_foldRows (take : α → List Value → Except Failure α) (total : α) (session : Session σ) :
    (foldRows engine handle take total).run session =
      match (engine.answer (.fetchRow handle) session.state).1 with
      | .error failure => (.error failure, session.answered engine (.fetchRow handle))
      | .ok none => (.ok total, session.answered engine (.fetchRow handle))
      | .ok (some row) => match take total row with
        | .error failure => (.error failure, session.answered engine (.fetchRow handle))
        | .ok more =>
          (foldRows engine handle take more).run (session.answered engine (.fetchRow handle)) := by
  unfold foldRows Step.run answered
  rw [foldRowsFrom]
  split
  next failure state asked => rw [asked]
  next state asked => rw [asked]
  next row state asked =>
    rcases taken : take total row with failure | more <;> simp only [asked, taken]

/-- Two folds that take every row, each as the other does, go the same way. -/
theorem foldRows_matches {take : α → List Value → Except Failure α}
    {takeOther : β → List Value → Except Failure β} {related : α → β → Prop}
    (keeps : ∀ total other row, related total other →
      ∃ more others, take total row = .ok more ∧ takeOther other row = .ok others ∧
        related more others)
    {total : α} {other : β} (holds : related total other) (session : Session σ) :
    Matches related ((foldRows engine handle take total).run session).1
        ((foldRows engine handle takeOther other).run session).1 ∧
      ((foldRows engine handle takeOther other).run session).2 =
        ((foldRows engine handle take total).run session).2 := by
  have first := run_foldRows engine handle take total session
  have second := run_foldRows engine handle takeOther other session
  rcases asked : engine.answer (.fetchRow handle) session.state with ⟨failure | _ | row, state⟩
  · rw [asked] at first second
    rw [first, second]
    exact ⟨.failed failure, rfl⟩
  · rw [asked] at first second
    rw [first, second]
    exact ⟨.answered holds, rfl⟩
  · obtain ⟨more, others, takes, takesOther, kept⟩ := keeps total other row holds
    rw [asked] at first second
    simp only [takes, takesOther] at first second
    rw [first, second]
    exact foldRows_matches keeps kept (session.answered engine (.fetchRow handle))
termination_by engine.rowsLeft session.state handle
decreasing_by
  change engine.rowsLeft (engine.answer (.fetchRow handle) session.state).2 handle < _
  exact engine.fetchRow_lt handle session.state row (congrArg Prod.fst asked)

end Session

namespace Statement

/-! ## One column of a statement -/

variable (engine : Engine σ)

def Projects (index : Nat) (rows : List Row) (column : List Value) : Prop :=
  List.Forall₂ (fun row value => row.getAt? index = some value) rows column

theorem getAt?_rowOf (statement : Statement) (values : List Value) (index : Nat) :
    (statement.rowOf values).getAt? index =
      statement.visible[index]?.map fun position => values.getD position .null :=
  List.getElem?_map

def takeRow (statement : Statement) (rows : List Row) (values : List Value) :
    Except Failure (List Row) :=
  .ok (statement.rowOf values :: rows)

def takeColumn (statement : Statement) (index : Nat) (column values : List Value) :
    Except Failure (List Value) :=
  match (statement.rowOf values).getAt? index with
  | some value => .ok (value :: column)
  | none => .error (.indexOutOfRange index)

theorem run_fetchAll (statement : Statement) (session : Session σ) :
    (statement.fetchAll engine).run session =
      let folded := (Session.foldRows engine statement.handle statement.takeRow []).run session
      (folded.1.map List.reverse, folded.2) :=
  Step.run_bind_pure _ List.reverse session

theorem run_fetchColumn (statement : Statement) (index : Nat) (session : Session σ) :
    (statement.fetchColumn engine index).run session =
      let folded := (Session.foldRows engine statement.handle (statement.takeColumn index) []).run
        session
      (folded.1.map List.reverse, folded.2) :=
  Step.run_bind_pure _ List.reverse session

/-- The rows and the column are gathered in step, the last one first. -/
theorem fetchColumn_matches {statement : Statement} {dropped : List String}
    (shaped : Shaped statement dropped) {index : Nat}
    (inside : index < statement.columnNames.length) (session : Session σ) :
    Matches (Projects index) ((statement.fetchAll engine).run session).1
        ((statement.fetchColumn engine index).run session).1 ∧
      ((statement.fetchColumn engine index).run session).2 =
        ((statement.fetchAll engine).run session).2 := by
  have keeps : ∀ rows column values, Projects index rows column →
      ∃ more others, statement.takeRow rows values = .ok more ∧
        statement.takeColumn index column values = .ok others ∧ Projects index more others := by
    intro rows column values gathered
    obtain ⟨value, present⟩ : ∃ value, (statement.rowOf values).getAt? index = some value := by
      rw [getAt?_rowOf, List.getElem?_eq_getElem (shaped.size ▸ inside)]
      exact ⟨_, rfl⟩
    refine ⟨_, value :: column, rfl, ?_, .cons present gathered⟩
    rw [takeColumn, present]
  obtain ⟨alike, same⟩ :=
    Session.foldRows_matches engine statement.handle keeps List.Forall₂.nil session
  rw [run_fetchAll, run_fetchColumn]
  exact ⟨alike.map fun _ _ gathered => List.forall₂_reverse_iff.mpr gathered, same⟩

/-- What a column that is not there comes to, by the first fetch. -/
def beyond (index : Nat) : Except Failure (Option (List Value)) → Except Failure (List Value)
  | .error failure => .error failure
  | .ok none => .ok []
  | .ok (some _) => .error (.decode ("#" ++ toString index) "column index out of range")

theorem fetchColumn_beyond {statement : Statement} {dropped : List String}
    (shaped : Shaped statement dropped) {index : Nat}
    (outside : statement.columnNames.length ≤ index) (session : Session σ) :
    (statement.fetchColumn engine index).run session =
      (beyond index (engine.answer (.fetchRow statement.handle) session.state).1,
        session.answered engine (.fetchRow statement.handle)) := by
  have refuses : ∀ values, statement.takeColumn index [] values =
      .error (.indexOutOfRange index) := by
    intro values
    rw [takeColumn, getAt?_rowOf, List.getElem?_eq_none (shaped.size ▸ outside)]
    rfl
  rw [run_fetchColumn, Session.run_foldRows]
  simp only [refuses]
  rcases (engine.answer (.fetchRow statement.handle) session.state).1 with _ | _ | _ <;> rfl

/-! ## Statements that calls lead to -/

/-- The statement has come of a preparation and of calls on it.  Anything may have happened to the
engine in between, as others use the connection and a caller may use the handle itself. -/
inductive Reached : Statement → Prop where
  | prepared {sql : String} {options : PrepareOptions} {session opened : Session σ}
      {statement : Statement}
      (ran : (prepare engine sql options).run session = (.ok statement, opened)) :
      Reached statement
  | called {statement : Statement} (before : Reached statement) (call : Call)
      (session : Session σ) : Reached ((call.step engine).run (statement, session)).2.1

theorem shaped_of_prepare {sql : String} {options : PrepareOptions} {session opened : Session σ}
    {statement : Statement}
    (prepared : (prepare engine sql options).run session = (.ok statement, opened)) :
    Shaped statement [] := by
  rw [prepare, Step.run_bind] at prepared
  rcases asked : (Session.prepare engine sql options).run session with ⟨failure | handle, later⟩
  · rw [asked] at prepared
    cases prepared
  · rw [asked] at prepared
    cases prepared
    exact .withoutResult [] ⟨handle, options, .assoc, false, [], [], []⟩

theorem shaped_step (call : Call) {start : Statement × Session σ} {dropped : List String}
    (shaped : Shaped start.1 dropped) :
    ∃ dropped, Shaped ((call.step engine).run start).2.1 dropped := by
  rcases step_result engine call start with
    same | ⟨statement, cleared⟩ | ⟨arguments, options, columns, statement, rfl, _, ran⟩
  · exact ⟨dropped, shaped.of_result_eq same⟩
  · rw [cleared]
    exact ⟨[], .withoutResult [] statement⟩
  · rw [Call.step, ran]
    exact ⟨options.dropColumns, .withResult columns options.dropColumns statement⟩

theorem Reached.shaped {statement : Statement} (reached : Reached engine statement) :
    ∃ dropped, Shaped statement dropped := by
  induction reached with
  | prepared ran => exact ⟨[], shaped_of_prepare engine ran⟩
  | called before call session ih =>
    obtain ⟨dropped, shaped⟩ := ih
    exact shaped_step engine call shaped

theorem Reached.after {start : Statement × Session σ} (reached : Reached engine start.1)
    (calls : List Call) : Reached engine (after engine calls start).1 := by
  induction calls generalizing start with
  | nil => exact reached
  | cons call rest ih => exact ih (reached.called call start.2)

/-- Whatever has been done with a statement, and whatever the engine does, a fetch of one visible
column fails as a fetch of all rows does, or answers the column of the rows that this answers, and
it leaves the session as this does.  A fetch of a column beyond the visible ones asks for one row:
it answers nothing where none is left, fails as that request does, and refuses a row. -/
theorem fetchColumn_projects {statement : Statement} (reached : Reached engine statement)
    (index : Nat) (session : Session σ) :
    let rows := (statement.fetchAll engine).run session
    let column := (statement.fetchColumn engine index).run session
    (index < statement.columnNames.length →
        Matches (Projects index) rows.1 column.1 ∧ column.2 = rows.2) ∧
      (statement.columnNames.length ≤ index →
        column = (beyond index (engine.answer (.fetchRow statement.handle) session.state).1,
          session.answered engine (.fetchRow statement.handle))) := by
  intro rows column
  obtain ⟨dropped, shaped⟩ := reached.shaped
  exact ⟨fun inside => fetchColumn_matches engine shaped inside session,
    fun outside => fetchColumn_beyond engine shaped outside session⟩

def shelfStatement : Statement × Session Script.World :=
  (⟨⟨0⟩, {}, .assoc, false, [], [], []⟩,
    ((prepare (Script.engine {}) "SELECT * FROM shelf" {}).run shelf).2)

/-- The same after it has read the first row.  The row that is left is too short for the last
column. -/
def shelfReader : Statement × Session Script.World :=
  after (Script.engine {}) [.execute .empty { dropColumns := ["rowver"] }, .fetch] shelfStatement

theorem reached_shelfReader : Reached (Script.engine {}) shelfReader.1 := by
  have ran : (prepare (Script.engine {}) "SELECT * FROM shelf" {}).run shelf =
      (.ok shelfStatement.1, shelfStatement.2) := rfl
  have opened : Reached (Script.engine {}) shelfStatement.1 := .prepared ran
  exact opened.after _ _

theorem fetchColumn_projects_shelfReader :
    shelfReader.1.columnNames = ["id", "name"] ∧
      Matches (Projects 1) ((shelfReader.1.fetchAll (Script.engine {})).run shelfReader.2).1
        ((shelfReader.1.fetchColumn (Script.engine {}) 1).run shelfReader.2).1 ∧
      ((shelfReader.1.fetchColumn (Script.engine {}) 2).run shelfReader.2).1 =
        .error (.decode "#2" "column index out of range") := by
  have names : shelfReader.1.columnNames = ["id", "name"] := by decide +kernel
  have left : beyond 2 ((Script.engine {}).answer (.fetchRow shelfReader.1.handle)
      shelfReader.2.state).1 = .error (.decode "#2" "column index out of range") := by
    decide +kernel
  have inside := (fetchColumn_projects (Script.engine {}) reached_shelfReader 1 shelfReader.2).1
    (by rw [names]; decide)
  have outside := (fetchColumn_projects (Script.engine {}) reached_shelfReader 2 shelfReader.2).2
    (by rw [names]; decide)
  refine ⟨names, inside.1, ?_⟩
  rw [outside, left]

end Statement

end SqlBridge
