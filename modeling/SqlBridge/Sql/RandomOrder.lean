/-!
# Random order

Rows come in random order when they are sorted by a column that is computed
afresh for every row.  The rule is stated for any builder of SELECT queries.
-/

set_option autoImplicit false

namespace SqlBridge

inductive Direction where
  | asc
  | desc
  deriving DecidableEq

/-- Ascending unless said otherwise. -/
instance : Inhabited Direction := ⟨.asc⟩

def Direction.sql : Direction → String
  | asc => "ASC"
  | desc => "DESC"

/-- What random order needs of a builder.  Adding a computed column answers the
alias that the builder has really used. -/
class SelectBuilder (β : Type) where
  addExpression : β → String → String → String × β
  hasExpression : β → String → Bool
  orderBy : β → String → Direction → β

namespace RandomOrder

def sortAlias : String := "random_field"

def expression : String := "NEWID()"

/-- Sorts by a computed random column, unless the query has one already. -/
def apply {β : Type} [SelectBuilder β] (query : β) : β :=
  if SelectBuilder.hasExpression query sortAlias then query
  else
    let (used, extended) := SelectBuilder.addExpression query expression sortAlias
    SelectBuilder.orderBy extended used .asc

end RandomOrder

/-- The parts of a SELECT query that random order touches.  A computed column
gets the alias asked for with the query's suffix behind it. -/
structure SelectParts where
  suffix : String := ""
  /-- Expressions with their aliases. -/
  expressions : List (String × String) := []
  order : List (String × Direction) := []
  deriving DecidableEq

namespace SelectParts

def addExpression (query : SelectParts) (expression name : String) : String × SelectParts :=
  let used := name ++ query.suffix
  (used, { query with expressions := query.expressions ++ [(expression, used)] })

def hasExpression (query : SelectParts) (name : String) : Bool :=
  query.expressions.any fun entry => entry.2 == name

def orderBy (query : SelectParts) (field : String) (direction : Direction) : SelectParts :=
  { query with order := query.order ++ [(field, direction)] }

instance : SelectBuilder SelectParts := ⟨addExpression, hasExpression, orderBy⟩

end SelectParts

end SqlBridge
