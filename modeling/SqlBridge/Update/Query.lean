import SqlBridge.Failure
import SqlBridge.Sql.Condition
import SqlBridge.Options
import SqlBridge.ColumnInformation

/-!
# UPDATE queries

A query assigns literal values and expressions to fields.  Each kind keeps its
fields in the order in which they were first set, and a field set again only
changes what is assigned.  An expression prevails over a literal of the same
name.  In the SET clause the expressions come first; the literals that remain
are numbered from zero, and their placeholders carry these numbers.
-/

set_option autoImplicit false

namespace SqlBridge

/-- Named things in the order of their first mention. -/
abbrev Fields (α : Type) := List (String × α)

namespace Fields

/-- A name that is there keeps its place and its first entry changes; any other
name is added at the end. -/
def upsert {α : Type} (name : String) (content : α) : Fields α → Fields α
  | [] => [(name, content)]
  | (other, old) :: rest =>
    if other = name then (other, content) :: rest else (other, old) :: upsert name content rest

def names {α : Type} (fields : Fields α) : List String :=
  fields.map Prod.fst

@[simp] theorem names_nil {α : Type} : names ([] : Fields α) = [] := rfl

@[simp] theorem names_cons {α : Type} (field : String × α) (rest : Fields α) :
    names (field :: rest) = field.1 :: names rest := rfl

/-- A name is added only where it was not there before. -/
theorem names_upsert {α : Type} (name : String) (content : α) (fields : Fields α) :
    names (upsert name content fields) =
      if name ∈ names fields then names fields else names fields ++ [name] := by
  induction fields with
  | nil => simp [upsert, names]
  | cons field rest ih =>
    obtain ⟨other, old⟩ := field
    by_cases same : other = name
    · simp [upsert, names, same]
    · simp only [names] at ih
      simp only [upsert, names, if_neg same, List.map_cons, ih, List.mem_cons]
      have different : ¬ name = other := fun equal => same equal.symm
      by_cases present : name ∈ rest.map Prod.fst <;> simp [different, present]

def without {α : Type} (name : String) (fields : Fields α) : Fields α :=
  fields.filter fun field => field.1 != name

theorem mem_without {α : Type} (name : String) (fields : Fields α) (field : String × α) :
    field ∈ without name fields ↔ field ∈ fields ∧ field.1 ≠ name := by
  simp [without]

end Fields

/-- The right-hand side of an assignment as SQL, with its own arguments. -/
structure Expression where
  sql : String
  arguments : ParamList := .empty
  deriving DecidableEq

structure Update where
  table : String
  literals : Fields Value := []
  expressions : Fields Expression := []
  condition : Option Condition := none
  comments : List String := []
  placeholderPrefix : String := ":placeholder_"
  options : QueryOptions := {}

namespace Update

def setLiteral (update : Update) (field : String) (value : Value) : Update :=
  { update with literals := Fields.upsert field value update.literals }

def setLiterals (update : Update) (fields : Fields Value) : Update :=
  fields.foldl (fun update field => update.setLiteral field.1 field.2) update

def setExpression (update : Update) (field : String) (expression : Expression) : Update :=
  { update with expressions := Fields.upsert field expression update.expressions }

def withCondition (update : Update) (condition : Condition) : Update :=
  { update with condition := some condition }

def withComment (update : Update) (comment : String) : Update :=
  { update with comments := update.comments ++ [comment] }

def withPlaceholderPrefix (update : Update) (text : String) : Update :=
  { update with placeholderPrefix := text }

def withOptions (update : Update) (options : QueryOptions) : Update :=
  { update with options := options }

def hasExpression (update : Update) (field : String) : Bool :=
  update.expressions.any fun entry => entry.1 == field

/-- An empty condition restricts nothing and is left out. -/
def compiledCondition (update : Update) (dialect : Dialect) : Option CompiledCondition :=
  (update.condition.filter fun condition => !condition.isEmpty).map fun condition =>
    condition.compile dialect

def placeholder (update : Update) (number : Nat) : String :=
  update.placeholderPrefix ++ toString number

/-- The literals that no expression overrides. -/
def plainLiterals (update : Update) (literals : Fields Value) : Fields Value :=
  literals.filter fun field => !update.hasExpression field.1

def expressionItems (update : Update) (dialect : Dialect) : List String :=
  update.expressions.map fun field => dialect.quoteIdentifier field.1 ++ "=" ++ field.2.sql

def literalItems (update : Update) (dialect : Dialect) (literals : Fields Value) : List String :=
  (update.plainLiterals literals).zipIdx.map fun numbered =>
    dialect.quoteIdentifier numbered.1.1 ++ "=" ++ update.placeholder numbered.2

def setItems (update : Update) (dialect : Dialect) (literals : Fields Value) : List String :=
  update.expressionItems dialect ++ update.literalItems dialect literals

/-- The statement that assigns the given literals beside the query's expressions. -/
def sqlWith (update : Update) (dialect : Dialect) (literals : Fields Value)
    (condition : Option CompiledCondition) : String :=
  let restriction := match condition with
    | none => ""
    | some compiled => "\nWHERE " ++ compiled.sql
  dialect.makeComment update.comments ++ "UPDATE \x7b" ++ dialect.escapeTable update.table ++
    "\x7d SET " ++ ", ".intercalate (update.setItems dialect literals) ++ restriction

/-- The statement with every field of the query.  The identity column is known
to the schema alone, so a write to it is still there. -/
def sql (update : Update) (dialect : Dialect) : String :=
  update.sqlWith dialect update.literals (update.compiledCondition dialect)

def assignsNothing (literals : Fields Value) (expressions : Fields Expression) : Bool :=
  literals.isEmpty && expressions.isEmpty

def validate (update : Update) : Except Failure Unit :=
  if assignsNothing update.literals update.expressions then
    .error (.validation ("UPDATE " ++ update.table ++ ": SET clause cannot be empty"))
  else
    .ok ()

end Update

end SqlBridge
