import SqlBridge.Proofs.ClientLog
import SqlBridge.Proofs.HandleSql
import SqlBridge.Proofs.LeadingKeyword
import SqlBridge.Proofs.QueryStatistics

/-!
# Counting updates

An update that succeeds in running its statement hands the logger one entry, with the SQL that it
has prepared.  Whatever comments stand in front of it, that SQL is counted as an update, once
wherever statistics are kept.
-/

set_option autoImplicit false

namespace SqlBridge

open Transcript
open Session (Quiet)

variable {σ : Type}

/-! ## Statistics -/

structure QueryStats.CountsUpdate (before after : QueryStats) : Prop where
  updateCount : after.updateCount = before.updateCount + 1
  oneMore : before.updateCount.toNat + 1 < UInt64.size →
    after.updateCount.toNat = before.updateCount.toNat + 1
  selectCount : after.selectCount = before.selectCount

theorem QueryStats.countsUpdate_log (stats : QueryStats) {sql : String}
    (kind : QueryKind.ofSql sql = .update) (elapsed : Duration) :
    CountsUpdate stats (stats.log sql elapsed) := by
  have counted : (stats.log sql elapsed).updateCount = stats.updateCount + 1 := if_pos kind
  refine ⟨counted, fun short => ?_, if_neg (by simp [kind])⟩
  rw [counted, toNat_add_one le_rfl short]

namespace Logger

mutual

/-- An entry reaches every part of a tree that keeps statistics. -/
theorem allStats_log (entry : LogEntry) (logger : Logger) :
    (logger.log entry).2.allStats =
      logger.allStats.map fun stats => stats.log entry.sql entry.elapsed := by
  cases logger with
  | composite parts => exact allStatsOf_logAll entry parts
  | _ => rfl

theorem allStatsOf_logAll (entry : LogEntry) (parts : List Logger) :
    allStatsOf (logAll entry parts).2 =
      (allStatsOf parts).map fun stats => stats.log entry.sql entry.elapsed := by
  cases parts with
  | nil => rfl
  | cons part rest =>
    simp only [logAll, allStatsOf, List.map_append, allStats_log entry part,
      allStatsOf_logAll entry rest]

end

theorem countsUpdate_log {entry : LogEntry} (kind : QueryKind.ofSql entry.sql = .update)
    (logger : Logger) :
    List.Forall₂ QueryStats.CountsUpdate logger.allStats (logger.log entry).2.allStats := by
  rw [allStats_log, List.forall₂_map_right_iff, List.forall₂_same]
  exact fun stats _ => stats.countsUpdate_log kind entry.elapsed

end Logger

theorem Session.logger_logged (entry : LogEntry) {session : Session σ} {logger : Logger}
    (attached : session.logger = some logger) :
    (session.logged entry).logger = some (logger.log entry).2 := by
  unfold Session.logged
  rw [attached]

/-! ## The SQL of an entry -/

variable (engine : Engine σ)

namespace Statement

theorem handle_execute (arguments : ParamList) {options : QueryOptions}
    (prepared : options.alreadyPrepared = true) (start : Statement × Session σ) :
    ((execute engine arguments options).run start).2.1.handle = start.1.handle := by
  obtain ⟨events, retains⟩ := retaining_runReady engine arguments options start
  rw [execute_eq, settleUnless, prepared]
  exact retains.handle

/-- As long as nothing else is prepared, the SQL of a new statement is what it was prepared from. -/
theorem sql_of_prepare (keeps : engine.KeepsSql) {sql : String} {options : PrepareOptions}
    {session opened : Session σ} {statement : Statement}
    (prepared : (prepare engine sql options).run session = (.ok statement, opened))
    {events : List Event} (silent : texts events = []) :
    engine.sql (stateAfter engine opened.state events) statement.handle = sql := by
  obtain ⟨later, ran, passes, _⟩ := Session.passes_prepare engine sql options session
  rw [prepare, Step.run_bind, ran] at prepared
  have state := passes.state
  cases answered : (engine.answer (.prepare ⟨session.prepared⟩ sql options) session.state).1 with
  | error failure =>
    rw [answered] at prepared
    cases prepared
  | ok _ =>
    rw [answered] at prepared
    cases prepared
    rw [state]
    apply keeps _ _ _ options _ answered
    intro other again asked
    rw [texts, List.filterMap_eq_nil_iff] at silent
    exact absurd (silent _ asked) (by simp [Request.text?])

end Statement

namespace Update

theorem preparation_ok {update : Update} {info : ColumnInformation} {session middle : Session σ}
    {opened : Option (ColumnInformation × Statement)}
    (ran : (update.preparation engine info).run session = (.ok opened, middle)) :
    opened = none ∧ update.assignments info = [] ∨
      ∃ statement noted, opened = some (info, statement) ∧
        (Statement.prepare engine (update.statementText engine.dialect info) {}).run noted =
          (.ok statement, middle) := by
  simp only [preparation, Step.run_bind, Session.run_notifyAll] at ran
  split at ran
  next nothing =>
    cases ran
    exact .inl ⟨rfl, (assignsNothing_writableLiterals update info).mp nothing⟩
  next something =>
    rw [Step.run_bind] at ran
    rcases prepared : (Statement.prepare engine (update.statementText engine.dialect info) {}).run
      (session.note (told ((update.identityNotices info).map Emission.reported))) with
        ⟨failure | statement, later⟩
    · rw [prepared] at ran
      cases ran
    · rw [prepared] at ran
      cases ran
      exact .inr ⟨statement, _, rfl, prepared⟩

/-- An opening comes to a statement of the planned text, or it has sent no SQL. -/
theorem opens_ok {update : Update} {session middle : Session σ}
    {opened : Option (ColumnInformation × Statement)}
    (ran : (update.opens engine).run session = (.ok opened, middle)) :
    opened = none ∧ texts (middle.since session) = [] ∨
      ∃ info statement noted, opened = some (info, statement) ∧
        (Statement.prepare engine (update.statementText engine.dialect info) {}).run noted =
          (.ok statement, middle) := by
  rw [opens, Step.run_bind, Step.run_ofExcept] at ran
  cases valid : update.validate with
  | error failure =>
    rw [valid] at ran
    cases ran
  | ok _ =>
    rw [valid] at ran
    obtain ⟨events, sends, _⟩ := opening_sends engine update session
    have reported : (Session.columnInformation engine update.table).run session =
        ((engine.answer (.columnInformation update.table) session.state).1,
          session.answered engine (.columnInformation update.table)) := rfl
    have opening : (update.opening engine).run session = (.ok opened, middle) := ran
    rw [opening] at sends
    rw [Update.opening, Step.run_bind, reported] at opening
    cases known : (engine.answer (.columnInformation update.table) session.state).1 with
    | error failure =>
      rw [known] at opening
      cases opening
    | ok info =>
      rw [known] at opening sends
      rcases preparation_ok engine opening with ⟨rfl, nothing⟩ | ⟨statement, noted, rfl, prepared⟩
      · refine .inl ⟨rfl, ?_⟩
        rw [sends.since_eq, sends.sent, preparedTexts, if_pos nothing]
      · exact .inr ⟨info, statement, noted, rfl, prepared⟩

/-- An update that prepares its statement and succeeds hands the logger one entry, with the SQL
that it has prepared, and is quiet before and behind. -/
theorem execute_hands (keeps : engine.KeepsSql) (update : Update) {session later : Session σ}
    {count : Nat} (fine : (update.execute engine).run session = (.ok count, later))
    (prepares : texts (later.since session) ≠ []) :
    ∃ info before bound entry behind, Quiet engine session before bound ∧
      Quiet engine (bound.logged entry) behind later ∧
      entry.sql = update.statementText engine.dialect info := by
  have executes := execute_executes engine update session
  rw [fine] at executes
  generalize update.execution? engine session = made at executes
  generalize succeeded : (Except.ok count : Except Failure Nat) = outcome at executes
  cases executes with
  | @unopened outcome front later opened nothing quiet =>
    cases outcome with
    | error failure => cases succeeded
    | ok statement =>
      rcases opens_ok engine opened with ⟨_, silent⟩ | ⟨info, statement, noted, rfl, _⟩
      · exact absurd silent prepares
      · cases nothing
  | unbound quiet => cases succeeded
  | @executed info statement middle later outcome execution front bindings back opened closed same
      prepared opens binds ends fine =>
    obtain ⟨answer, ran⟩ := fine count succeeded.symm
    obtain ⟨before, bound, entry, behind, quiet, presents, _, _, sql, _⟩ :=
      Statement.execute_hands engine
        (Prod.ext ran rfl : execution.ran engine = (.ok answer, (execution.ran engine).2))
    refine ⟨info, _, bound, entry, _, (opens.trans binds).trans quiet, presents.trans ends, ?_⟩
    have handle : (execution.ran engine).2.1.handle = execution.start.1.handle :=
      Statement.handle_execute engine execution.arguments prepared execution.start
    have state : bound.state = stateAfter engine middle.state (bindings ++ before) :=
      (binds.trans quiet).state
    have silent : texts (bindings ++ before) = [] := by
      obtain ⟨emissions, logged⟩ := Session.leads_logged engine entry bound
      obtain ⟨events, leads, silent, _⟩ := closing_binds engine update info statement middle
      have whole := ((binds.trans quiet).toLeads.trans logged).trans (presents.trans ends).toLeads
      rw [closed] at leads
      rw [leads.since_eq.symm.trans whole.since_eq, texts_append, texts_append] at silent
      exact (List.append_eq_nil_iff.mp (List.append_eq_nil_iff.mp silent).1).1
    rcases opens_ok engine opened with ⟨absent, _⟩ | ⟨known, other, noted, present, texted⟩
    · cases absent
    cases present
    rw [sql, handle, same, state]
    exact Statement.sql_of_prepare engine keeps texted silent

/-- Every SQL text that an update comes to is of an update.  So one that prepares its statement and
succeeds is counted as an update, once wherever statistics are kept, and not as a selection. -/
theorem execute_counted (engine : Engine σ) (update : Update) (session : Session σ) :
    (∀ dialect : Dialect, dialect.makeComment = Comment.header →
      QueryKind.ofSql (update.sql dialect) = .update) ∧
    (engine.dialect.makeComment = Comment.header →
      let ran := (update.execute engine).run session
      let sent := texts (ran.2.since session)
      (∀ sql ∈ sent, QueryKind.ofSql sql = .update) ∧
      (engine.KeepsSql → sent ≠ [] → ∀ count, ran.1 = .ok count →
        ∀ logger, session.logger = some logger → ∃ after, ran.2.logger = some after ∧
          List.Forall₂ QueryStats.CountsUpdate logger.allStats after.allStats)) := by
  refine ⟨fun dialect commented => update.ofSql_statementText commented {}, ?_⟩
  intro commented ran sent
  refine ⟨?_, ?_⟩
  · intro sql listed
    obtain ⟨texted, _⟩ := execute_shows engine update session
    rw [show sent = _ from texted] at listed
    cases known : (engine.answer (.columnInformation update.table) session.state).1 with
    | error failure =>
      rw [known] at listed
      cases listed
    | ok info =>
      rw [known, preparedTexts] at listed
      split at listed
      · cases listed
      · rw [List.mem_singleton.mp listed]
        exact update.ofSql_statementText commented info
  · intro keeps prepares count fine logger attached
    obtain ⟨info, before, bound, entry, behind, quiet, presents, sql⟩ := execute_hands engine keeps
      update (Prod.ext fine rfl : (update.execute engine).run session = (.ok count, ran.2)) prepares
    refine ⟨(logger.log entry).2, ?_, ?_⟩
    · rw [presents.logger]
      exact Session.logger_logged entry (quiet.logger.trans attached)
    · apply Logger.countsUpdate_log
      rw [sql]
      exact update.ofSql_statementText commented info

/-- The comments would end the header and start a selection, and then leave a comment open. -/
def disguised : Update where
  table := "users"
  literals := [("name", .text "Ann")]
  comments := ["*/ SELECT 1; /*", "**/ UPDATE", "/* late"]

def watched : Session Script.World :=
  { visitors with
    logger := some (.composite [.stats { updateCount := 4, selectCount := 2 }, .recorder,
      .composite [.stats .empty]]) }

theorem execute_counted_disguised :
    let engine := Script.engine {}
    let ran := (disguised.execute engine).run watched
    texts (ran.2.since watched) = ["/*  * / SELECT 1 / * .  *  * / UPDATE. / *  late */ " ++
        "UPDATE \x7busers\x7d SET [name]=:placeholder_0"] ∧
      ∃ after, ran.2.logger = some after ∧
        List.Forall₂ QueryStats.CountsUpdate [{ updateCount := 4, selectCount := 2 }, .empty]
          after.allStats := by
  intro engine ran
  have sent : texts (ran.2.since watched) =
      ["/*  * / SELECT 1 / * .  *  * / UPDATE. / *  late */ " ++
        "UPDATE \x7busers\x7d SET [name]=:placeholder_0"] := by decide +kernel
  have something : texts (ran.2.since watched) ≠ [] := by
    rw [sent]
    exact List.cons_ne_nil _ _
  obtain ⟨_, counts⟩ := (execute_counted engine disguised watched).2 rfl
  exact ⟨sent, counts (Script.keepsSql_engine {}) something 0 (by decide +kernel) _ rfl⟩

end Update

end SqlBridge
