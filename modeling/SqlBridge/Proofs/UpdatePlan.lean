import SqlBridge.Update.Execute
import SqlBridge.Proofs.Binding

/-!
# What an update is about to do

The columns of the table settle which statement an update prepares and what it
binds.  The text and the bindings are made on separate paths, and each path
leaves out overridden literals and numbers the rest by itself.  Both come to the
same numbered literals.
-/

set_option autoImplicit false

namespace SqlBridge

namespace Binding

def ofCondition : Option CompiledCondition → List Binding
  | none => []
  | some compiled => compiled.arguments.params.map ofParam

theorem blob?_of_mem_ofCondition {condition : Option CompiledCondition} {binding : Binding}
    (listed : binding ∈ ofCondition condition) : binding.blob? = none := by
  cases condition with
  | none => cases listed
  | some compiled =>
    obtain ⟨param, _, rfl⟩ := List.mem_map.mp listed
    rfl

end Binding

namespace Update

/-- The literals that an update assigns in a table: neither the identity column
nor a field that an expression overrides. -/
def assignedLiterals (update : Update) (info : ColumnInformation) : Fields Value :=
  update.literals.filter fun field =>
    info.identity ≠ some field.1 ∧ field.1 ∉ Fields.names update.expressions

structure Assignment where
  field : String
  sql : String
  deriving DecidableEq

def Assignment.text (dialect : Dialect) (assignment : Assignment) : String :=
  dialect.quoteIdentifier assignment.field ++ "=" ++ assignment.sql

def assignments (update : Update) (info : ColumnInformation) : List Assignment :=
  update.expressions.map (fun field => ⟨field.1, field.2.sql⟩) ++
    (update.assignedLiterals info).zipIdx.map fun numbered =>
      ⟨numbered.1.1, update.placeholder numbered.2⟩

def Restricts (update : Update) (clauses : List Clause) : Prop :=
  update.condition = none ∧ clauses = [] ∨
    update.condition = some (Conjunction.toCondition ⟨clauses⟩)

theorem Restricts.compiledCondition_eq {update : Update} {clauses : List Clause}
    (restricts : Restricts update clauses) (dialect : Dialect) :
    update.compiledCondition dialect =
      if clauses = [] then none else some (Conjunction.compile ⟨clauses⟩ dialect) := by
  rcases restricts with ⟨absent, rfl⟩ | present
  · rw [compiledCondition, absent]
    rfl
  · rw [compiledCondition, present]
    cases clauses <;> rfl

def restriction : Option CompiledCondition → String
  | none => ""
  | some compiled => "\nWHERE " ++ compiled.sql

def textOf (update : Update) (dialect : Dialect) (items : List Assignment) : String :=
  dialect.makeComment update.comments ++ "UPDATE \x7b" ++ dialect.escapeTable update.table ++
    "\x7d SET " ++ ", ".intercalate (items.map (Assignment.text dialect)) ++
      restriction (update.compiledCondition dialect)

def bindings (update : Update) (dialect : Dialect) (info : ColumnInformation) : List Binding :=
  Binding.ofExpressions update.expressions ++
    Binding.ofLiteralsFrom info update.placeholder 0 (update.assignedLiterals info) ++
      Binding.ofCondition (update.compiledCondition dialect)

def statementText (update : Update) (dialect : Dialect) (info : ColumnInformation) : String :=
  update.sqlWith dialect (update.writableLiterals info) (update.compiledCondition dialect)

theorem hasExpression_iff (update : Update) (name : String) :
    update.hasExpression name = true ↔ name ∈ Fields.names update.expressions := by
  simp [hasExpression, Fields.names]

theorem mem_writableLiterals (update : Update) (info : ColumnInformation)
    (field : String × Value) :
    field ∈ update.writableLiterals info ↔
      field ∈ update.literals ∧ info.identity ≠ some field.1 := by
  unfold writableLiterals
  cases info.identity with
  | none => simp
  | some identity => simp [Fields.mem_without, eq_comm]

theorem filter_writableLiterals (update : Update) (info : ColumnInformation) :
    (update.writableLiterals info).filter
      (fun field => field.1 ∉ Fields.names update.expressions) = update.assignedLiterals info := by
  unfold writableLiterals assignedLiterals
  cases info.identity with
  | none => simp
  | some identity =>
    simp only [Fields.without, List.filter_filter]
    apply List.filter_congr
    intro field _
    by_cases same : identity = field.1
    · simp [same]
    · simp [same, Ne.symm same]

theorem plainLiterals_writableLiterals (update : Update) (info : ColumnInformation) :
    update.plainLiterals (update.writableLiterals info) = update.assignedLiterals info := by
  rw [← filter_writableLiterals]
  apply List.filter_congr
  intro field _
  simp [← hasExpression_iff]

theorem setItems_writableLiterals (update : Update) (dialect : Dialect)
    (info : ColumnInformation) :
    update.setItems dialect (update.writableLiterals info) =
      (update.assignments info).map (Assignment.text dialect) := by
  rw [setItems, expressionItems, literalItems, plainLiterals_writableLiterals, assignments,
    List.map_append, List.map_map, List.map_map]
  rfl

theorem sqlWith_eq (update : Update) (dialect : Dialect) (literals : Fields Value)
    (condition : Option CompiledCondition) :
    update.sqlWith dialect literals condition =
      dialect.makeComment update.comments ++ "UPDATE \x7b" ++ dialect.escapeTable update.table ++
        "\x7d SET " ++ ", ".intercalate (update.setItems dialect literals) ++
          restriction condition := by
  cases condition <;> rfl

theorem statementText_eq (update : Update) (dialect : Dialect) (info : ColumnInformation) :
    update.statementText dialect info = update.textOf dialect (update.assignments info) := by
  rw [statementText, sqlWith_eq, setItems_writableLiterals, textOf]

theorem assignedLiterals_of_expressions {update : Update} (noExpressions : update.expressions = [])
    (info : ColumnInformation) :
    update.assignedLiterals info = update.writableLiterals info := by
  rw [← filter_writableLiterals, noExpressions]
  exact List.filter_eq_self.mpr (by simp)

theorem assignments_eq_nil_iff (update : Update) (info : ColumnInformation) :
    update.assignments info = [] ↔
      update.expressions = [] ∧ update.assignedLiterals info = [] := by
  rw [assignments, List.append_eq_nil_iff, List.map_eq_nil_iff, List.map_eq_nil_iff,
    List.zipIdx_eq_nil_iff]

theorem assignments_eq_nil_of_assignsNothing {update : Update}
    (nothing : assignsNothing update.literals update.expressions = true)
    (info : ColumnInformation) : update.assignments info = [] := by
  rw [assignsNothing, Bool.and_eq_true, List.isEmpty_iff, List.isEmpty_iff] at nothing
  rw [assignments_eq_nil_iff, assignedLiterals, nothing.1]
  exact ⟨nothing.2, rfl⟩

/-- The check before the preparation asks whether the SET clause has an item. -/
theorem assignsNothing_writableLiterals (update : Update) (info : ColumnInformation) :
    assignsNothing (update.writableLiterals info) update.expressions = true ↔
      update.assignments info = [] := by
  rw [assignsNothing, Bool.and_eq_true, List.isEmpty_iff, List.isEmpty_iff,
    assignments_eq_nil_iff, and_comm]
  apply and_congr_right
  intro noExpressions
  rw [assignedLiterals_of_expressions noExpressions]

end Update

end SqlBridge
