import SqlBridge.Session.Script
import SqlBridge.Session.Client
import SqlBridge.Proofs.ExecutionLog
import SqlBridge.Proofs.UpdateOpening

/-!
# The log of a connection

A client executes statements one by one and has updates execute theirs.  The log of its connection
has one entry for each of these executions that succeeds, in the order in which they were made, and
no other.
-/

set_option autoImplicit false

namespace SqlBridge

open Transcript
open Session (Quiet Accounts chains_quiet)

variable {σ α : Type} (engine : Engine σ)

namespace Update

/-! ## The execution within an update -/

def opens (update : Update) : Step (Session σ) (Option (ColumnInformation × Statement)) := do
  Step.ofExcept update.validate
  update.opening engine

/-- The execution that is made for an update, if it comes to that: there is something to assign,
the statement is prepared, and everything is bound to it. -/
def execution? (update : Update) (session : Session σ) : Option (Execution σ) :=
  match (update.opens engine).run session with
  | (.ok (some (info, statement)), opened) =>
    match (update.bindAll engine statement.handle (update.writableLiterals info) info
      (update.compiledCondition engine.dialect)).run (BlobHolder.empty, opened) with
    | (.ok _, _, bound) =>
      some ⟨.empty, update.options.withAlreadyPrepared true, (statement, bound)⟩
    | _ => none
  | _ => none

def finishing (handle : Handle) (outcome : Except Failure Unit) (holder : BlobHolder) :
    Step (Session σ) Nat := do
  Session.releaseHeld engine handle holder
  Step.ofExcept outcome
  Session.reading fun state => engine.rowCount state handle

theorem closing_eq (update : Update) (info : ColumnInformation) (statement : Statement) :
    update.closing engine (some (info, statement)) =
      Step.beside BlobHolder.empty
        (update.bindAll engine statement.handle (update.writableLiterals info) info
          (update.compiledCondition engine.dialect) >>= fun _ => update.executing engine statement)
        >>= fun bound => finishing engine statement.handle bound.1 bound.2 := by
  rw [← bindAndRun_eq]
  rfl

theorem finishing_answer (handle : Handle) (outcome : Except Failure Unit) (holder : BlobHolder)
    (session : Session σ) :
    ∃ count, ((finishing engine handle outcome holder).run session).1 =
      outcome.map fun _ => count := by
  unfold finishing Session.releaseHeld
  split <;> cases outcome with
  | error failure => exact ⟨0, rfl⟩
  | ok _ => exact ⟨_, rfl⟩

theorem exists_answer_of_finishing {handle : Handle} {outcome : Except Failure α}
    {holder : BlobHolder} {session : Session σ} {count : Nat}
    (fine : ((finishing engine handle (outcome.map fun _ => ()) holder).run session).1 =
      .ok count) :
    ∃ answer, outcome = .ok answer := by
  obtain ⟨rows, answered⟩ := finishing_answer engine handle (outcome.map fun _ => ()) holder session
  rw [answered] at fine
  cases outcome with
  | error failure => cases fine
  | ok answer => exact ⟨answer, rfl⟩

section

variable {update : Update} {info : ColumnInformation} {statement : Statement}
  {session ready : Session σ} {holder : BlobHolder}

theorem run_closing_of_error {failure : Failure}
    (bound : (update.bindAll engine statement.handle (update.writableLiterals info) info
      (update.compiledCondition engine.dialect)).run (.empty, session) =
        (.error failure, holder, ready)) :
    (update.closing engine (some (info, statement))).run session =
      (finishing engine statement.handle (.error failure) holder).run ready := by
  simp only [closing_eq, Step.run_bind, Step.run_beside, bound]

theorem run_closing_of_ok
    (bound : (update.bindAll engine statement.handle (update.writableLiterals info) info
      (update.compiledCondition engine.dialect)).run (.empty, session) =
        (.ok (), holder, ready)) :
    let execution : Execution σ :=
      ⟨.empty, update.options.withAlreadyPrepared true, (statement, ready)⟩
    (update.closing engine (some (info, statement))).run session =
      (finishing engine statement.handle ((execution.ran engine).1.map fun _ => ()) holder).run
        (execution.ran engine).2.2 := by
  intro execution
  simp only [closing_eq, Step.run_bind, Step.run_beside, bound, run_executing]
  rfl

end

theorem quiet_opening (update : Update) (session : Session σ) :
    Step.Along (Quiet engine) (update.opening engine) session := by
  have chains := chains_quiet engine
  have looksUp : Step.Along (Quiet engine)
      (Session.columnInformation engine update.table) session :=
    Session.quiet_exchange engine id session
  apply Step.Along.bind chains looksUp
  intro info known _
  apply Step.Along.bind chains (Session.quiet_notifyAll engine _ known)
  intro _ noted _
  split
  · apply Step.Along.bind chains (Session.quiet_notifyAll engine _ noted)
    intro _ _ _
    exact .pure chains none
  · apply Step.Along.bind chains (Statement.quiet_prepare engine _ _ noted)
    intro statement _ _
    exact .pure chains _

theorem quiet_bindAll (update : Update) (handle : Handle) (literals : Fields Value)
    (info : ColumnInformation) (condition : Option CompiledCondition)
    (start : BlobHolder × Session σ) :
    Step.Along (Beside (Quiet engine)) (update.bindAll engine handle literals info condition)
      start := by
  have chains := (chains_quiet engine).beside (ρ := BlobHolder)
  have expressions := Session.quiet_bindExpressions engine handle update.expressions
    (literals, start.2)
  apply Step.Along.bind chains (.lift expressions.beside)
  intro (bound, plain) argued _
  apply Step.Along.bind chains (.ofExcept chains bound)
  intro _ fine _
  apply Step.Along.bind chains (Session.quiet_bindLiteralsFrom engine handle info _ 0 plain fine)
  intro _ valued _
  apply Step.Along.lift
  cases condition with
  | none => exact .pure (chains_quiet engine) ()
  | some compiled => exact Session.quiet_bindParams engine handle _ valued.2

theorem quiet_finishing (handle : Handle) (outcome : Except Failure Unit) (holder : BlobHolder)
    (session : Session σ) :
    Step.Along (Quiet engine) (finishing engine handle outcome holder) session := by
  have chains := chains_quiet engine
  apply Step.Along.bind chains (Session.quiet_releaseHeld engine handle holder session)
  intro _ released _
  apply Step.Along.bind chains (.ofExcept chains outcome)
  intro _ fine _
  exact .reading chains _

/-- How far an update comes, with the execution that is made for it. -/
inductive Executes (update : Update) (session : Session σ) :
    Option (Execution σ) → Except Failure Nat → Session σ → Prop where
  | unopened {outcome : Except Failure (Option (ColumnInformation × Statement))}
      {front : List Event} {later : Session σ}
      (opened : (update.opens engine).run session = (outcome, later))
      (nothing : openedFor outcome = none) (quiet : Quiet engine session front later) :
      Executes update session none (outcome.map fun _ => 0) later
  | unbound {failure : Failure} {events : List Event} {later : Session σ}
      (quiet : Quiet engine session events later) :
      Executes update session none (.error failure) later
  | executed {info : ColumnInformation} {statement : Statement} {middle later : Session σ}
      {outcome : Except Failure Nat} {execution : Execution σ} {front bindings back : List Event}
      (opened : (update.opens engine).run session = (.ok (some (info, statement)), middle))
      (closed : (update.closing engine (some (info, statement))).run middle = (outcome, later))
      (same : execution.start.1 = statement) (prepared : execution.options.alreadyPrepared = true)
      (opens : Quiet engine session front middle)
      (binds : Quiet engine middle bindings execution.start.2)
      (ends : Quiet engine (execution.ran engine).2.2 back later)
      (fine : ∀ count, outcome = .ok count → ∃ answer, (execution.ran engine).1 = .ok answer) :
      Executes update session (some execution) outcome later

theorem execute_executes (update : Update) (session : Session σ) :
    Executes engine update session (update.execution? engine session)
      ((update.execute engine).run session).1 ((update.execute engine).run session).2 := by
  have whole : update.execute engine = update.opens engine >>= update.closing engine := by
    rw [execute_eq_opening, opens, Step.bind_assoc]
  have opening : Step.Along (Quiet engine) (update.opens engine) session :=
    .bind (chains_quiet engine) (.ofExcept (chains_quiet engine) _) fun _ later _ =>
      quiet_opening engine update later
  obtain ⟨front, quiet⟩ := opening
  rw [whole, execution?, Step.run_bind]
  rcases opened : (update.opens engine).run session with
    ⟨failure | _ | ⟨info, statement⟩, middle⟩
  · rw [opened] at quiet
    exact .unopened opened rfl quiet
  · rw [opened] at quiet
    exact .unopened opened rfl quiet
  rw [opened] at quiet
  obtain ⟨bindings, binds⟩ := quiet_bindAll engine update statement.handle
    (update.writableLiterals info) info (update.compiledCondition engine.dialect) (.empty, middle)
  rcases bound : (update.bindAll engine statement.handle (update.writableLiterals info) info
    (update.compiledCondition engine.dialect)).run (.empty, middle) with
      ⟨failure | _, holder, ready⟩
  · rw [bound] at binds
    obtain ⟨back, ends⟩ := quiet_finishing engine statement.handle (.error failure) holder ready
    obtain ⟨count, failed⟩ := finishing_answer engine statement.handle (.error failure) holder ready
    simp only [bound, run_closing_of_error engine bound, failed]
    exact .unbound ((quiet.trans binds).trans ends)
  · rw [bound] at binds
    let execution : Execution σ :=
      ⟨.empty, update.options.withAlreadyPrepared true, (statement, ready)⟩
    obtain ⟨back, ends⟩ := quiet_finishing engine statement.handle
      ((execution.ran engine).1.map fun _ => ()) holder (execution.ran engine).2.2
    have closed := run_closing_of_ok engine bound
    simp only [bound]
    rw [← closed] at ends
    refine .executed opened rfl rfl rfl quiet binds ends ?_
    intro count fine
    rw [closed] at fine
    exact exists_answer_of_finishing engine fine

theorem accounts_execute (update : Update) (session : Session σ)
    (recording : session.logger = some .recorder) :
    Step.Along (Accounts engine (update.execution? engine session).toList)
      (update.execute engine) session := by
  have executes := execute_executes engine update session
  rw [Step.Along]
  generalize update.execution? engine session = made at executes ⊢
  generalize ((update.execute engine).run session).1 = outcome at executes
  generalize ((update.execute engine).run session).2 = later at executes ⊢
  cases executes with
  | unopened opened nothing quiet => exact ⟨_, quiet.accounts⟩
  | unbound quiet => exact ⟨_, quiet.accounts⟩
  | executed opened closed same prepared opens binds ends fine =>
    have executed := Execution.accounts engine _ (binds.logger.trans (opens.logger.trans recording))
    exact ⟨_, ((opens.accounts.trans binds.accounts).trans executed).trans ends.accounts⟩

end Update

/-! ## Calls -/

def Statement.Call.execution? (start : Statement × Session σ) : Call → Option (Execution σ)
  | .execute arguments options => some ⟨arguments, options, start⟩
  | _ => none

theorem Statement.Call.accounts_step (call : Call) (start : Statement × Session σ)
    (recording : start.2.logger = some .recorder) :
    ∃ events, Accounts engine (call.execution? start).toList start.2 events
      ((call.step engine).run start).2.2 := by
  cases made : call.execution? start with
  | none =>
    have other : ∀ arguments options, call ≠ .execute arguments options := by
      rintro arguments options rfl
      cases made
    obtain ⟨events, quiet⟩ := (admits_quiet engine).step other start
    exact ⟨events, Quiet.accounts quiet⟩
  | some execution =>
    cases call with
    | execute arguments options =>
      cases made
      exact ⟨_, Execution.accounts engine ⟨arguments, options, start⟩ recording⟩
    | _ => cases made

namespace Client

namespace Call

def executions (client : Client σ) : Call → List (Execution σ)
  | .prepare _ _ => []
  | .onStatement position call =>
    (client.statements[position]?.bind fun statement =>
      call.execution? (statement, client.session)).toList
  | .update query => (query.execution? engine client.session).toList

theorem accounts_step (call : Call) (client : Client σ)
    (recording : client.session.logger = some .recorder) :
    ∃ events, Accounts engine (call.executions engine client) client.session events
      (call.step engine client).session := by
  cases call with
  | prepare sql options =>
    obtain ⟨events, quiet⟩ := Statement.quiet_prepare engine sql options client.session
    rw [step]
    rcases opened : (Statement.prepare engine sql options).run client.session with
      ⟨failure | statement, later⟩
    · rw [opened] at quiet
      exact ⟨events, quiet.accounts⟩
    · rw [opened] at quiet
      exact ⟨events, quiet.accounts⟩
  | onStatement position call =>
    rw [step, executions]
    cases opened : client.statements[position]? with
    | none => exact ⟨[], ((chains_quiet engine).refl client.session).accounts⟩
    | some statement => exact call.accounts_step engine (statement, client.session) recording
  | update query => exact query.accounts_execute engine client.session recording

end Call

def executions : List Call → Client σ → List (Execution σ)
  | [], _ => []
  | call :: rest, client =>
    call.executions engine client ++ executions rest (call.step engine client)

theorem accounts_after (calls : List Call) (client : Client σ)
    (recording : client.session.logger = some .recorder) :
    ∃ events, Accounts engine (executions engine calls client) client.session events
      (after engine calls client).session := by
  induction calls generalizing client with
  | nil => exact ⟨[], ((chains_quiet engine).refl client.session).accounts⟩
  | cons call rest ih =>
    obtain ⟨front, first⟩ := call.accounts_step engine client recording
    obtain ⟨back, others⟩ := ih (call.step engine client) (first.logger.trans recording)
    exact ⟨front ++ back, first.trans others⟩

/-- Whatever calls are made, the log has an entry for each execution that succeeds, in order, and
none beside. -/
theorem after_records (calls : List Call) (client : Client σ)
    (recording : client.session.logger = some .recorder) :
    List.Forall₂ (Execution.Records engine)
      ((executions engine calls client).filter fun execution => execution.succeeds engine)
      (recorded ((after engine calls client).session.since client.session)) := by
  obtain ⟨events, accounts⟩ := accounts_after engine calls client recording
  rw [accounts.since_eq]
  exact accounts.entries

def shop : Client Script.World where
  session :=
    { state := { handles := [{ runs := [{ columns := [⟨"id", "int", none⟩] },
        { columns := [⟨"id", "int", none⟩], columnFault := some ⟨0, .other "no memory"⟩ }] }, {}] }
      logger := some .recorder }

/-- Two statements take turns, an update comes between them, and one handle is replaced. -/
def workday : List Call :=
  [.prepare "SELECT id FROM shelf WHERE id = :id" {}, .prepare "EXEC report" {},
    .onStatement 0 (.execute ⟨[⟨":id", .int 7⟩]⟩ {}), .onStatement 1 .requireInsecure,
    .onStatement 0 (.execute ⟨[⟨":id", .int 8⟩]⟩ {}), .onStatement 1 (.execute .empty {}),
    .update { table := "shelf", literals := [("stock", .int 3)] },
    .onStatement 2 (.execute .empty {})]

theorem after_records_workday :
    let engine := Script.engine {}
    let made := executions engine workday shop
    let log := recorded ((after engine workday shop).session.since shop.session)
    shop.session.logger = some .recorder ∧
      made.map (Execution.succeeds engine) = [true, false, true, true] ∧
      made.map (Execution.handle engine) = [⟨0⟩, ⟨0⟩, ⟨2⟩, ⟨3⟩] ∧
      log = [⟨"SELECT id FROM shelf WHERE id = :id", some ⟨[⟨":id", .int 7⟩]⟩, ⟨0⟩⟩,
        ⟨"EXEC report", none, ⟨0⟩⟩,
        ⟨"UPDATE \x7bshelf\x7d SET [stock]=:placeholder_0", none, ⟨0⟩⟩] ∧
      List.Forall₂ (Execution.Records engine)
        (made.filter fun execution => execution.succeeds engine) log := by
  intro engine made log
  exact ⟨rfl, by decide +kernel, by decide +kernel, by decide +kernel,
    after_records engine workday shop rfl⟩

end Client

end SqlBridge
