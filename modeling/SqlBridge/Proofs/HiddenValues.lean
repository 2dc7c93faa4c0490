import SqlBridge.Proofs.Placeholders

/-!
# Values stay out of the text

Two updates that differ only in the values to be bound compile to the same SQL, and they bind the
same placeholders in the same order.  Whatever is read off an update on the way is the same once
its values are blanked.
-/

set_option autoImplicit false

namespace SqlBridge

open Transcript

variable {σ τ : Type}

/-! ## Blanking -/

def ParamList.blank (list : ParamList) : ParamList :=
  ⟨list.params.map fun param => { param with value := .null }⟩

def Expression.blank (expression : Expression) : Expression :=
  { expression with arguments := expression.arguments.blank }

def Clause.blank : Clause → Clause
  | .raw sql own => .raw sql own.blank
  | .compare column comparison _ => .compare column comparison .null
  | .isNull column => .isNull column
  | .isNotNull column => .isNotNull column

namespace ParamList

@[simp] theorem placeholders_blank (list : ParamList) :
    list.blank.placeholders = list.placeholders := by
  rw [placeholders, blank, List.map_map]
  rfl

@[simp] theorem size_blank (list : ParamList) : list.blank.size = list.size :=
  List.length_map ..

end ParamList

namespace Conjunction

theorem placeholdersFrom_blank (number : Nat) (clauses : List Clause) :
    placeholdersFrom number (clauses.map Clause.blank) = placeholdersFrom number clauses := by
  induction clauses generalizing number with
  | nil => rfl
  | cons clause rest ih =>
    cases clause <;> simp only [List.map_cons, Clause.blank, placeholdersFrom, ih,
      ParamList.placeholders_blank, ParamList.size_blank]

theorem compileClause_blank (dialect : Dialect) {arguments more : ParamList}
    (counted : arguments.size = more.size) (clause : Clause) :
    (compileClause dialect arguments clause.blank).1 = (compileClause dialect more clause).1 ∧
      (compileClause dialect arguments clause.blank).2.size =
        (compileClause dialect more clause).2.size := by
  cases clause with
  | raw sql own => simp [Clause.blank, compileClause, ParamList.size_append, counted]
  | compare column comparison value =>
    simp [Clause.blank, compileClause, ParamList.size_add, counted]
  | isNull column => exact ⟨rfl, counted⟩
  | isNotNull column => exact ⟨rfl, counted⟩

/-- The text of a clause has use for the number of arguments before it, and for no value. -/
theorem compileClauses_blank (dialect : Dialect) {arguments more : ParamList}
    (counted : arguments.size = more.size) (clauses : List Clause) :
    (compileClauses dialect arguments (clauses.map Clause.blank)).1 =
      (compileClauses dialect more clauses).1 := by
  induction clauses generalizing arguments more with
  | nil => rfl
  | cons clause rest ih =>
    obtain ⟨text, size⟩ := compileClause_blank dialect counted clause
    simp only [List.map_cons, compileClauses, text, ih size]

theorem compile_sql_blank (dialect : Dialect) (clauses : List Clause) :
    (compile ⟨clauses.map Clause.blank⟩ dialect).sql = (compile ⟨clauses⟩ dialect).sql :=
  congrArg join (compileClauses_blank dialect rfl clauses)

end Conjunction

namespace Update

structure EqualButValues (first second : Update) : Prop where
  table : first.table = second.table
  comments : first.comments = second.comments
  placeholderPrefix : first.placeholderPrefix = second.placeholderPrefix
  literals : Fields.names first.literals = Fields.names second.literals
  expressions : first.expressions.map (Prod.map id Expression.blank) =
    second.expressions.map (Prod.map id Expression.blank)
  condition : ∃ clauses others, first.Restricts clauses ∧ second.Restricts others ∧
    clauses.map Clause.blank = others.map Clause.blank

theorem names_assignedLiterals (update : Update) (info : ColumnInformation) :
    Fields.names (update.assignedLiterals info) =
      (Fields.names update.literals).filter fun name =>
        info.identity ≠ some name ∧ name ∉ Fields.names update.expressions := by
  simp only [Fields.names, assignedLiterals, List.filter_map, Function.comp_def]

theorem assignments_eq (update : Update) (info : ColumnInformation) :
    update.assignments info =
      update.expressions.map (fun field => ⟨field.1, field.2.sql⟩) ++
        (Fields.names (update.assignedLiterals info)).zipIdx.map fun numbered =>
          ⟨numbered.1, update.placeholder numbered.2⟩ := by
  rw [Fields.names, List.zipIdx_map, List.map_map]
  rfl

theorem sql_eq_statementText (update : Update) (dialect : Dialect) :
    update.sql dialect = update.statementText dialect {} := rfl

namespace EqualButValues

variable {first second : Update} (equal : EqualButValues first second)

include equal

theorem read_expressions {α : Type} {read : String × Expression → α}
    (blind : ∀ field, read (Prod.map id Expression.blank field) = read field) :
    first.expressions.map read = second.expressions.map read := by
  have mapped := congrArg (List.map read) equal.expressions
  simpa only [List.map_map, Function.comp_def, blind] using mapped

theorem names_assignedLiterals (info : ColumnInformation) :
    Fields.names (first.assignedLiterals info) = Fields.names (second.assignedLiterals info) := by
  have names : Fields.names first.expressions = Fields.names second.expressions :=
    equal.read_expressions fun _ => rfl
  rw [Update.names_assignedLiterals, Update.names_assignedLiterals, equal.literals, names]

theorem placeholder : first.placeholder = second.placeholder := by
  funext number
  rw [Update.placeholder, Update.placeholder, equal.placeholderPrefix]

theorem assignments (info : ColumnInformation) :
    first.assignments info = second.assignments info := by
  rw [assignments_eq, assignments_eq, equal.names_assignedLiterals, equal.placeholder,
    equal.read_expressions fun _ => rfl]

theorem restriction (dialect : Dialect) :
    Update.restriction (first.compiledCondition dialect) =
      Update.restriction (second.compiledCondition dialect) := by
  obtain ⟨clauses, others, restricts, restricted, blanked⟩ := equal.condition
  have none : clauses = [] ↔ others = [] := by
    rw [← List.map_eq_nil_iff, blanked, List.map_eq_nil_iff]
  have text : (Conjunction.compile ⟨clauses⟩ dialect).sql =
      (Conjunction.compile ⟨others⟩ dialect).sql := by
    rw [← Conjunction.compile_sql_blank, blanked, Conjunction.compile_sql_blank]
  rw [restricts.compiledCondition_eq, restricted.compiledCondition_eq]
  by_cases empty : clauses = []
  · rw [if_pos empty, if_pos (none.mp empty)]
  · rw [if_neg empty, if_neg (mt none.mpr empty), Update.restriction, Update.restriction, text]

theorem statementText (dialect : Dialect) (info : ColumnInformation) :
    first.statementText dialect info = second.statementText dialect info := by
  rw [statementText_eq, statementText_eq, textOf, textOf, equal.comments, equal.table,
    equal.assignments, equal.restriction]

theorem placeholder_bindings (dialect : Dialect) (info : ColumnInformation) :
    (first.bindings dialect info).map Binding.placeholder =
      (second.bindings dialect info).map Binding.placeholder := by
  obtain ⟨clauses, others, restricts, restricted, blanked⟩ := equal.condition
  have counted : (first.assignedLiterals info).length = (second.assignedLiterals info).length := by
    have names := congrArg List.length (equal.names_assignedLiterals info)
    rwa [Fields.names, Fields.names, List.length_map, List.length_map] at names
  have expressions : expressionPlaceholders first.expressions =
      expressionPlaceholders second.expressions := by
    rw [expressionPlaceholders, expressionPlaceholders, List.flatMap_def, List.flatMap_def,
      equal.read_expressions fun field => ParamList.placeholders_blank field.2.arguments]
  have condition : Conjunction.placeholdersFrom 0 clauses =
      Conjunction.placeholdersFrom 0 others := by
    rw [← Conjunction.placeholdersFrom_blank, blanked, Conjunction.placeholdersFrom_blank]
  rw [map_placeholder_bindings restricts, map_placeholder_bindings restricted, expressions,
    condition, counted, equal.placeholder]

end EqualButValues

/-- Two connections on which an update of the table can be expected to go the same way: they write
SQL alike, know the same columns, and prepare the same statements. -/
structure Akin (engine : Engine σ) (other : Engine τ) (session : Session σ) (another : Session τ)
    (table : String) : Prop where
  dialect : engine.dialect = other.dialect
  columns : (engine.answer (.columnInformation table) session.state).1 =
    (other.answer (.columnInformation table) another.state).1
  grants : (session.answered engine (.columnInformation table)).grants engine =
    (another.answered other (.columnInformation table)).grants other

theorem Akin.refl (engine : Engine σ) (session : Session σ) (table : String) :
    Akin engine engine session session table := ⟨rfl, rfl, rfl⟩

section

variable {first second : Update} (equal : EqualButValues first second)

include equal

theorem EqualButValues.preparedTexts (dialect : Dialect)
    (known : Except Failure ColumnInformation) :
    first.preparedTexts dialect known = second.preparedTexts dialect known := by
  cases known with
  | error failure => rfl
  | ok info =>
    rw [Update.preparedTexts, Update.preparedTexts, equal.assignments, equal.statementText]

theorem EqualButValues.boundFor (dialect : Dialect) (grants : String → Bool)
    (known : Except Failure ColumnInformation) :
    first.boundFor dialect grants known = second.boundFor dialect grants known := by
  cases known with
  | error failure => rfl
  | ok info => rw [Update.boundFor, Update.boundFor, equal.assignments, equal.statementText]

theorem EqualButValues.boundIn {engine : Engine σ} {other : Engine τ} {session : Session σ}
    {another : Session τ} (akin : Akin engine other session another first.table) :
    first.boundIn engine session = second.boundIn other another := by
  rw [Update.boundIn, Update.boundIn, ← equal.table, ← akin.dialect, ← akin.columns, ← akin.grants,
    equal.boundFor]

end

/-- Neither the SQL nor the names and the order of what is bound depend on a value. -/
theorem execute_hides_values (engine : Engine σ) (other : Engine τ) (session : Session σ)
    (another : Session τ) (first second : Update) (equal : EqualButValues first second)
    (akin : Akin engine other session another first.table) :
    let events := ((first.execute engine).run session).2.since session
    let others := ((second.execute other).run another).2.since another
    (∀ dialect, first.sql dialect = second.sql dialect) ∧ texts events = texts others ∧
      ((∀ event ∈ events, event.refusesBinding = false) →
        (∀ event ∈ others, event.refusesBinding = false) →
          placeholders events = placeholders others) := by
  intro events others
  obtain ⟨text, unbound, binds⟩ := execute_shows engine first session
  obtain ⟨otherText, otherUnbound, otherBinds⟩ := execute_shows other second another
  refine ⟨fun dialect => ?_, ?_, fun accepted otherAccepted => ?_⟩
  · rw [sql_eq_statementText, sql_eq_statementText, equal.statementText]
  · rw [← equal.table, ← akin.dialect, ← akin.columns] at otherText
    exact text.trans ((equal.preparedTexts _ _).trans otherText.symm)
  · rw [← equal.boundIn akin] at otherUnbound otherBinds
    rw [← akin.dialect] at otherBinds
    cases bound : first.boundIn engine session with
    | none => exact (unbound bound).trans (otherUnbound bound).symm
    | some info =>
      have here := (binds info bound).complete accepted
      have there := (otherBinds info bound).complete otherAccepted
      exact here.trans ((equal.placeholder_bindings _ info).trans there.symm)

def injectedClauses : List Clause :=
  [.compare "id" .gte (.text "0 OR 1=1"),
    .raw "city IN (:first, :second)" ⟨[⟨":first", .null⟩, ⟨":second", .bool true⟩]⟩,
    .compare "age" .lt (.text ":db_condition_placeholder_0")]

/-- The update `mixed` with other values, some of which look like SQL. -/
def injected : Update :=
  { mixed with
    literals := [("name", .text "x'; DROP TABLE users; --"), ("visits", .null), ("photo", .int 1)]
    expressions := [("visits", ⟨"visits + :step", ⟨[⟨":step", .text "1, admin=1"⟩]⟩⟩)]
    condition := some (Conjunction.toCondition ⟨injectedClauses⟩) }

theorem execute_hides_values_injected :
    let engine := Script.engine {}
    let events := ((mixed.execute engine).run visitors).2.since visitors
    let others := ((injected.execute engine).run visitors).2.since visitors
    requests events ≠ requests others ∧ mixed.sql {} = injected.sql {} ∧
      texts events = texts others ∧ placeholders events = placeholders others := by
  intro engine events others
  have equal : EqualButValues mixed injected :=
    ⟨rfl, rfl, rfl, rfl, rfl, mixedClauses, injectedClauses, .inr rfl, .inr rfl, rfl⟩
  obtain ⟨sql, text, bound⟩ := execute_hides_values engine engine visitors visitors mixed injected
    equal (.refl engine visitors "users")
  exact ⟨by decide +kernel, sql {}, text, bound (by decide +kernel) (by decide +kernel)⟩

end Update

end SqlBridge
