import SqlBridge.Update.History
import SqlBridge.Proofs.DialectText
import SqlBridge.Proofs.FieldMentions
import SqlBridge.Proofs.UpdateOpening
import SqlBridge.Proofs.UpdateSinglePass

/-!
# What a history of edits assigns

Edits settle what an update assigns.  A name keeps the place at which it first came up and has the
content that came up last; an expression prevails over every value of the same name, whichever was
set first.  The text and the bindings are those of the fields that are settled so.
-/

set_option autoImplicit false

namespace SqlBridge

open Transcript

variable {σ : Type}

theorem Ran.ofStage_bind_prefix {handle : Handle} {bindings : List Binding}
    {mode : Option FetchMode} {events : List Event} {outcome : Except Failure Unit}
    (ran : Ran handle bindings mode events outcome) :
    ofStage .bind events <+: bindings.map (Binding.request handle) := by
  cases ran with
  | unbound failure bound =>
    rw [← Binding.filter_bind_map handle bindings]
    exact bound.requests_prefix.filter _
  | @ran back rest outcome asked columns =>
    have unbound := filter_stage_eq_nil .bind fun request (listed : request ∈ requests back) => by
      rw [asked] at listed
      exact Statement.stage_ne_bind_of_mem_run columns listed
    have all : ofStage .bind (bindings.map (Binding.event handle (.ok ())) ++ back) =
        bindings.map (Binding.request handle) := by
      rw [ofStage, requests_append, List.filter_append, unbound, List.append_nil,
        Binding.requests_map_event, Binding.filter_bind_map]
    exact all ▸ List.prefix_rfl

namespace Update

/-! ## What edits set -/

open Fields (gathered upsertAll)

theorem setLiterals_eq (update : Update) (fields : Fields Value) :
    update.setLiterals fields = { update with literals := upsertAll fields update.literals } := by
  induction fields generalizing update with
  | nil => rfl
  | cons field rest ih => exact ih (update.setLiteral field.1 field.2)

namespace Edit

theorem table_apply (edit : Edit) (update : Update) : (edit.apply update).table = update.table := by
  cases edit with
  | setLiterals fields => rw [apply, setLiterals_eq]
  | _ => rfl

theorem literals_apply (edit : Edit) (update : Update) :
    (edit.apply update).literals = upsertAll edit.literals update.literals := by
  cases edit with
  | setLiterals fields => rw [apply, setLiterals_eq, literals]
  | _ => rfl

theorem expressions_apply (edit : Edit) (update : Update) :
    (edit.apply update).expressions = upsertAll edit.expressions update.expressions := by
  cases edit with
  | setLiterals fields => rw [apply, setLiterals_eq]; rfl
  | _ => rfl

end Edit

/-- The induction is on the edits from the last one on, as that is the one applied last. -/
theorem built_fields (table : String) (edits : List Edit) :
    (built table edits).table = table ∧
      (built table edits).literals = gathered (literalMentions edits) ∧
      (built table edits).expressions = gathered (expressionMentions edits) := by
  induction edits using List.reverseRecOn with
  | nil => exact ⟨rfl, rfl, rfl⟩
  | append_singleton before last ih =>
    obtain ⟨named, literals, expressions⟩ := ih
    have whole : built table (before ++ [last]) = last.apply (built table before) :=
      List.foldl_concat ..
    have literalsLast : literalMentions (before ++ [last]) =
        literalMentions before ++ last.literals := by simp [literalMentions]
    have expressionsLast : expressionMentions (before ++ [last]) =
        expressionMentions before ++ last.expressions := by simp [expressionMentions]
    refine ⟨?_, ?_, ?_⟩
    · rw [whole, last.table_apply, named]
    · rw [whole, last.literals_apply, literals, literalsLast, Fields.gathered_append]
    · rw [whole, last.expressions_apply, expressions, expressionsLast, Fields.gathered_append]

def otherMentions (edits : List Edit) : Fields Value :=
  (literalMentions edits).filter fun mention =>
    mention.1 ∉ Fields.names (expressionMentions edits)

/-- What edits come to: the expressions, and the values of the other names. -/
structure SettledBy (edits : List Edit) (expressions : Fields Expression)
    (others : Fields Value) : Prop where
  expressions : Fields.Settles (expressionMentions edits) expressions
  others : Fields.Settles (otherMentions edits) others

def bindingsOf (update : Update) (dialect : Dialect) (info : ColumnInformation)
    (expressions : Fields Expression) (others : Fields Value) : List Binding :=
  Binding.ofExpressions expressions ++
    Binding.ofLiteralsFrom info update.placeholder 0 others ++
      Binding.ofCondition (update.compiledCondition dialect)

/-- What an execution sends that assigns these fields.  Where it comes to a run, everything has been
bound to the handle that runs. -/
structure Carries (engine : Engine σ) (update : Update) (info : ColumnInformation)
    (expressions : Fields Expression) (others : Fields Value) (events : List Event) : Prop where
  texted : ∀ sql ∈ texts events,
    sql = update.textOf engine.dialect (update.itemsOf expressions others)
  prepared : update.itemsOf expressions others ≠ [] → texts events ≠ []
  begun : ∃ handle, ofStage .bind events <+:
    (update.bindingsOf engine.dialect info expressions others).map (Binding.request handle)
  bound : ∀ handle supplied, .run handle supplied ∈ requests events → ofStage .bind events =
    (update.bindingsOf engine.dialect info expressions others).map (Binding.request handle)

section

variable {update : Update} {dialect : Dialect} {info : ColumnInformation}
  {outcome : Except Failure (Option Handle)} {events release : List Event}

/-- Nothing is bound that is not due. -/
theorem Assigning.ofStage_bind_prefix
    (assigning : Assigning update dialect info outcome events release) :
    ∃ handle, ofStage .bind (events ++ release) <+:
      (update.bindings dialect info).map (Binding.request handle) := by
  cases assigning with
  | unprepared handle failure => exact ⟨handle, List.nil_prefix⟩
  | @prepared handle events outcome ran =>
    have unbound := filter_stage_eq_nil .bind fun request
        (listed : request ∈ requests (Session.releaseAfter handle events)) => by
      rw [Session.eq_of_mem_releaseAfter listed]
      simp [Request.stage]
    refine ⟨handle, ?_⟩
    rw [ofStage, List.cons_append, requests_exchange, requests_append, List.filter_cons,
      List.filter_append, unbound, List.append_nil]
    exact ran.ofStage_bind_prefix

/-- Where a handle is run, everything has been bound to it, and nothing else. -/
theorem Assigning.ofStage_bind_of_run {handle : Handle} {supplied : Option ParamList}
    (assigning : Assigning update dialect info outcome events release)
    (ran : .run handle supplied ∈ requests (events ++ release)) :
    ofStage .bind (events ++ release) =
      (update.bindings dialect info).map (Binding.request handle) := by
  rcases assigning.run_cases with ⟨_, _, _, _, unrun⟩ | ⟨other, rest, asked, after, _⟩
  · exact absurd rfl (unrun _ ran)
  have unbound := filter_stage_eq_nil .bind fun request (listed : request ∈ rest) binds => by
    simpa [binds] using after request listed
  have same : handle = other := by
    rw [asked, List.mem_cons, List.mem_append, List.mem_append, List.mem_cons] at ran
    rcases ran with prepare | (binding | mode) | run | later
    · cases prepare
    · obtain ⟨binding, _, same⟩ := List.mem_map.mp binding
      have stage := binding.stage_request other
      rw [same] at stage
      cases stage
    · cases Statement.stage_of_mem_modeRequests mode
    · cases run
      rfl
    · simpa [Request.stage] using after _ later
  rw [ofStage, asked, same, List.filter_cons, List.filter_append, filter_bind_before_run,
    List.filter_cons, unbound]
  simp [Request.stage]

end

theorem execute_binds (engine : Engine σ) (update : Update) (session : Session σ)
    (info : ColumnInformation)
    (reported : (engine.answer (.columnInformation update.table) session.state).1 = .ok info) :
    let events := ((update.execute engine).run session).2.since session
    (∃ handle, ofStage .bind events <+:
        (update.bindings engine.dialect info).map (Binding.request handle)) ∧
      ∀ handle supplied, .run handle supplied ∈ requests events →
        ofStage .bind events =
          (update.bindings engine.dialect info).map (Binding.request handle) := by
  intro events
  by_cases unset : assignsNothing update.literals update.expressions = true
  · have silent : events = [] := since_execute_of_assignsNothing engine update session unset
    rw [silent]
    exact ⟨⟨⟨0⟩, List.nil_prefix⟩, fun _ _ ran => by cases ran⟩
  obtain ⟨outcome, emissions, during, release, all, course⟩ :=
    execute_of_reported engine update info session (by simpa using unset) reported
  have asked : requests events = .columnInformation update.table ::
      requests (during ++ release) := by
    simp only [events, all]
    rw [requests_exchange, requests_append, requests_told, List.nil_append]
  have bound : ofStage .bind events = ofStage .bind (during ++ release) := by
    rw [ofStage, asked]
    rfl
  rw [bound, asked]
  rcases course with ⟨_, rfl, rfl⟩ | ⟨_, assigning⟩
  · exact ⟨⟨⟨0⟩, List.nil_prefix⟩, fun _ _ ran => by simp at ran⟩
  · refine ⟨assigning.ofStage_bind_prefix, fun handle supplied ran => ?_⟩
    have late : .run handle supplied ∈ requests (during ++ release) := by simpa using ran
    exact assigning.ofStage_bind_of_run late

/-- An update carries what it is planned to assign. -/
theorem execute_carries (engine : Engine σ) (update : Update) (session : Session σ)
    (info : ColumnInformation)
    (reported : (engine.answer (.columnInformation update.table) session.state).1 = .ok info) :
    Carries engine update info update.expressions (update.assignedLiterals info)
      (((update.execute engine).run session).2.since session) := by
  obtain ⟨sent, _⟩ := execute_shows engine update session
  obtain ⟨begun, bound⟩ := execute_binds engine update session info reported
  rw [reported, preparedTexts] at sent
  refine ⟨?_, ?_, begun, bound⟩
  · intro sql listed
    rw [sent] at listed
    split at listed
    · cases listed
    · rw [List.mem_singleton.mp listed, statementText_eq]
      rfl
  · intro something
    have assigned : update.assignments info ≠ [] := something
    rw [sent, if_neg assigned]
    exact List.cons_ne_nil _ _

/-! ## Settled fields -/

namespace SettledBy

variable {edits : List Edit} {expressions : Fields Expression} {others : Fields Value}

theorem mem_names_others (settled : SettledBy edits expressions others) (name : String) :
    name ∈ Fields.names others ↔ name ∈ Fields.names (literalMentions edits) ∧
      name ∉ Fields.names (expressionMentions edits) := by
  rw [settled.others.mem_names_iff, Fields.mem_names, Fields.mem_names]
  simp [otherMentions]

theorem nodup_names (settled : SettledBy edits expressions others) :
    (Fields.names expressions ++ Fields.names others).Nodup := by
  rw [List.nodup_append]
  refine ⟨settled.expressions.nodup_names, settled.others.nodup_names, ?_⟩
  rintro name expressed _ other rfl
  exact ((settled.mem_names_others name).mp other).2
    ((settled.expressions.mem_names_iff name).mp expressed)

/-- Each name that was mentioned is there once, and no other is. -/
theorem count_names (settled : SettledBy edits expressions others) (name : String) :
    (Fields.names expressions ++ Fields.names others).count name =
      if name ∈ Fields.names (expressionMentions edits) ∨
        name ∈ Fields.names (literalMentions edits) then 1 else 0 := by
  rw [settled.nodup_names.count]
  apply if_congr ?_ rfl rfl
  rw [List.mem_append, settled.expressions.mem_names_iff, settled.mem_names_others]
  tauto

end SettledBy

theorem built_settledBy (table : String) (edits : List Edit) :
    let update := built table edits
    SettledBy edits update.expressions (update.assignedLiterals {}) := by
  intro update
  obtain ⟨_, literals, expressions⟩ := built_fields table edits
  have settled := Fields.settles_gathered (expressionMentions edits)
  have others : update.assignedLiterals {} = gathered (otherMentions edits) := by
    rw [assignedLiterals, literals, otherMentions, ← Fields.filter_gathered
      fun name => decide (name ∉ Fields.names (expressionMentions edits))]
    apply List.filter_congr
    intro field _
    simp [update, expressions, settled.mem_names_iff]
  refine ⟨?_, ?_⟩
  · rw [expressions]
    exact settled
  · rw [others]
    exact Fields.settles_gathered _

/-- Edits settle what is assigned, and with it the text and the bindings. -/
theorem built_assigns (engine : Engine σ) (session : Session σ) (table : String)
    (edits : List Edit) :
    let update := built table edits
    ∃ expressions others, SettledBy edits expressions others ∧
      (∀ more rest, SettledBy edits more rest → more = expressions ∧ rest = others) ∧
      (∀ name, (Fields.names expressions ++ Fields.names others).count name =
        if name ∈ Fields.names (expressionMentions edits) ∨
          name ∈ Fields.names (literalMentions edits) then 1 else 0) ∧
      (∀ dialect, update.sql dialect =
        update.textOf dialect (update.itemsOf expressions others)) ∧
      (∀ dialect : Dialect, dialect.quoteIdentifier = Identifier.quote →
        ((update.itemsOf expressions others).map fun item =>
          dialect.quoteIdentifier item.field).Nodup) ∧
      ∀ info, (engine.answer (.columnInformation table) session.state).1 = .ok info →
        Carries engine update info expressions
          (others.filter fun field => info.identity ≠ some field.1)
          (((update.execute engine).run session).2.since session) := by
  intro update
  have settled := built_settledBy table edits
  obtain ⟨named, _, _⟩ := built_fields table edits
  refine ⟨update.expressions, update.assignedLiterals {}, settled, ?_, settled.count_names, ?_,
    ?_, ?_⟩
  · intro more rest also
    exact ⟨also.expressions.unique settled.expressions, also.others.unique settled.others⟩
  · intro dialect
    exact statementText_eq update dialect {}
  · intro dialect quoting
    rw [quoting, ← Function.comp_def, ← List.map_map, map_field_itemsOf]
    exact settled.nodup_names.map Identifier.quote_injective
  · intro info reported
    have writable : (update.assignedLiterals {}).filter (fun field => info.identity ≠ some field.1) =
        update.assignedLiterals info := by
      rw [assignedLiterals, assignedLiterals, List.filter_filter]
      apply List.filter_congr
      intro field _
      simp
    rw [writable]
    exact execute_carries engine update session info (named ▸ reported)

/-- Names come up again, also as the other kind; one is the identity column of its table, and two
differ only in where a dot and brackets are. -/
def revision : List Edit :=
  [.setLiteral "a.b" (.int 1), .setExpression "visits" ⟨"visits + 1", .empty⟩,
    .setLiterals [("id", .int 7), ("visits", .int 5), ("a.b", .int 2)],
    .setExpression "stamp" ⟨"dbo.stamp(:by)", ⟨[⟨":by", .text "Ann"⟩]⟩⟩, .withComment "late",
    .setLiteral "a].[b" .null,
    .setExpression "visits" ⟨"visits + :step", ⟨[⟨":step", .int 3⟩]⟩⟩, .setLiteral "id" (.int 8)]

theorem built_assigns_revision :
    let update := built "users" revision
    let events := ((update.execute (Script.engine {})).run visitors).2.since visitors
    update.sql {} = "/* late */ UPDATE \x7busers\x7d SET [visits]=visits + :step, " ++
        "[stamp]=dbo.stamp(:by), [a].[b]=:placeholder_0, [id]=:placeholder_1, " ++
          "[a]]].[[b]=:placeholder_2" ∧
      ofStage .bind events = [.bindValue ⟨0⟩ ":step" (.int 3), .bindValue ⟨0⟩ ":by" (.text "Ann"),
        .bindValue ⟨0⟩ ":placeholder_0" (.int 2), .bindValue ⟨0⟩ ":placeholder_1" .null] ∧
      ∃ expressions others, SettledBy revision expressions others ∧
        Carries (Script.engine {}) update users expressions
          (others.filter fun field => users.identity ≠ some field.1) events := by
  intro update events
  obtain ⟨expressions, others, settled, _, _, _, _, carries⟩ :=
    built_assigns (Script.engine {}) visitors "users" revision
  exact ⟨by decide +kernel, by decide +kernel, expressions, others, settled, carries users rfl⟩

end Update

end SqlBridge
