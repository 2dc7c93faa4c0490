import SqlBridge.Update.Query

/-!
# Edits of an update

What a caller can say about an update before it is compiled, as data.  Edits come in any order and
number.  A name may come up in any of them, now with a value and now with an expression.
-/

set_option autoImplicit false

namespace SqlBridge.Update

inductive Edit where
  | setLiteral (field : String) (value : Value)
  | setLiterals (fields : Fields Value)
  | setExpression (field : String) (expression : Expression)
  | withCondition (condition : Condition)
  | withComment (comment : String)
  | withPlaceholderPrefix (text : String)
  | withOptions (options : QueryOptions)

namespace Edit

def apply : Edit → Update → Update
  | .setLiteral field value, update => update.setLiteral field value
  | .setLiterals fields, update => update.setLiterals fields
  | .setExpression field expression, update => update.setExpression field expression
  | .withCondition condition, update => update.withCondition condition
  | .withComment comment, update => update.withComment comment
  | .withPlaceholderPrefix text, update => update.withPlaceholderPrefix text
  | .withOptions options, update => update.withOptions options

/-- The values that an edit gives to fields, in order. -/
def literals : Edit → Fields Value
  | .setLiteral field value => [(field, value)]
  | .setLiterals fields => fields
  | _ => []

/-- The expression that an edit gives to a field, if it gives one. -/
def expressions : Edit → Fields Expression
  | .setExpression field expression => [(field, expression)]
  | _ => []

end Edit

/-- An update of a table as edits make it, one after the other. -/
def built (table : String) (edits : List Edit) : Update :=
  edits.foldl (fun update edit => edit.apply update) { table := table }

def literalMentions (edits : List Edit) : Fields Value :=
  edits.flatMap Edit.literals

def expressionMentions (edits : List Edit) : Fields Expression :=
  edits.flatMap Edit.expressions

end SqlBridge.Update
