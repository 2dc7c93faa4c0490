import SqlBridge.Sql.Dialect
import SqlBridge.ParamList

/-!
# Conditions

What follows WHERE.  A statement only asks two things of a condition: whether
there is anything to compile, and its text with its arguments.  A `Conjunction`
is a flat list of clauses joined by AND.
-/

set_option autoImplicit false

namespace SqlBridge

structure CompiledCondition where
  sql : String
  arguments : ParamList
  deriving DecidableEq

/-- A condition is known by its answers. -/
structure Condition where
  isEmpty : Bool
  compile : Dialect → CompiledCondition

inductive Comparison where
  | eq
  | ne
  | gt
  | gte
  | lt
  | lte
  deriving DecidableEq

def Comparison.sql : Comparison → String
  | eq => "="
  | ne => "<>"
  | gt => ">"
  | gte => ">="
  | lt => "<"
  | lte => "<="

inductive Clause where
  /-- SQL text taken as it is, with its own named arguments. -/
  | raw (sql : String) (arguments : ParamList)
  | compare (column : String) (comparison : Comparison) (value : Value)
  | isNull (column : String)
  | isNotNull (column : String)
  deriving DecidableEq

structure Conjunction where
  clauses : List Clause
  deriving DecidableEq

namespace Conjunction

def placeholderPrefix : String := ":db_condition_placeholder_"

def empty : Conjunction := ⟨[]⟩

def add (conjunction : Conjunction) (clause : Clause) : Conjunction :=
  ⟨conjunction.clauses ++ [clause]⟩

def isEmpty (conjunction : Conjunction) : Bool :=
  conjunction.clauses.isEmpty

/-- A comparison is numbered by the arguments that stand before it. -/
def placeholder (position : Nat) : String :=
  placeholderPrefix ++ toString position

/-- The text of one clause, and the arguments with its own added. -/
def compileClause (dialect : Dialect) (arguments : ParamList) : Clause → String × ParamList
  | .raw sql own => (sql, arguments ++ own)
  | .compare column comparison value =>
    let name := placeholder arguments.size
    (dialect.quoteIdentifier column ++ " " ++ comparison.sql ++ " " ++ name,
      arguments.add name value)
  | .isNull column => (dialect.quoteIdentifier column ++ " IS NULL", arguments)
  | .isNotNull column => (dialect.quoteIdentifier column ++ " IS NOT NULL", arguments)

def compileClauses (dialect : Dialect) : ParamList → List Clause → List String × ParamList
  | arguments, [] => ([], arguments)
  | arguments, clause :: rest =>
    let (part, next) := compileClause dialect arguments clause
    let (parts, last) := compileClauses dialect next rest
    (part :: parts, last)

/-- A clause that stands alone needs no parentheses. -/
def join : List String → String
  | [] => ""
  | [part] => part
  | parts => " AND ".intercalate (parts.map fun part => "(" ++ part ++ ")")

def compile (conjunction : Conjunction) (dialect : Dialect) : CompiledCondition :=
  let (parts, arguments) := compileClauses dialect .empty conjunction.clauses
  ⟨join parts, arguments⟩

def toCondition (conjunction : Conjunction) : Condition where
  isEmpty := conjunction.isEmpty
  compile := conjunction.compile

end Conjunction

end SqlBridge
