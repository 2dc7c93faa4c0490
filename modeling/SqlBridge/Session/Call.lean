import SqlBridge.Session.Statement

/-!
# Calls

What a caller can do with a statement, as data.  Calls come in any order and
number, and each goes on from the state that the one before has left, failed
calls included.
-/

set_option autoImplicit false

namespace SqlBridge.Statement

inductive Call where
  | execute (arguments : ParamList) (options : QueryOptions)
  | requireInsecure
  /-- Asks for the handle to bind values on. -/
  | bindingHandle
  /-- Asks for that handle and binds a value on it. -/
  | bindValue (placeholder : String) (value : Value)
  | setFetchMode (mode : FetchMode)
  | fetch
  | fetchAll
  | fetchColumn (index : Nat)
  | fetchAllKeyed (keyIndex valueIndex : Nat)
  deriving DecidableEq

variable {σ : Type} (engine : Engine σ)

/-- A step that reads the statement and leaves it as it is. -/
def looking {α : Type} (step : Statement → Step (Session σ) α) :
    Step (Statement × Session σ) α := do
  let statement ← Step.own
  step statement

def bindValue (placeholder : String) (value : Value) : Step (Statement × Session σ) Unit := do
  let handle ← bindingHandle engine
  Session.bindValue engine handle placeholder value

namespace Call

abbrev Answer : Call → Type
  | .execute _ _ => Bool
  | .requireInsecure => Unit
  | .bindingHandle => Handle
  | .bindValue _ _ => Unit
  | .setFetchMode _ => Unit
  | .fetch => Option Row
  | .fetchAll => List Row
  | .fetchColumn _ => List Value
  | .fetchAllKeyed _ _ => ValueMap

def step : (call : Call) → Step (Statement × Session σ) call.Answer
  | .execute arguments options => Statement.execute engine arguments options
  | .requireInsecure => Step.changeOwn Statement.requireInsecure
  | .bindingHandle => Statement.bindingHandle engine
  | .bindValue placeholder value => Statement.bindValue engine placeholder value
  | .setFetchMode mode => Statement.setFetchMode engine mode
  | .fetch => looking fun statement => statement.fetch engine
  | .fetchAll => looking fun statement => statement.fetchAll engine
  | .fetchColumn index => looking fun statement => statement.fetchColumn engine index
  | .fetchAllKeyed keyIndex valueIndex => Statement.fetchAllKeyed engine keyIndex valueIndex

/-- The calls that have a pending replacement of the handle made. -/
def settles : Call → Bool
  | .execute _ options => !options.alreadyPrepared
  | .bindingHandle => true
  | .bindValue _ _ => true
  | _ => false

end Call

/-- The state to which a statement and its session come by calls, one after the other. -/
def after : List Call → Statement × Session σ → Statement × Session σ
  | [], state => state
  | call :: rest, state => after rest ((call.step engine).run state).2

theorem after_append (front back : List Call) (state : Statement × Session σ) :
    after engine (front ++ back) state = after engine back (after engine front state) := by
  induction front generalizing state with
  | nil => rfl
  | cons call rest ih => exact ih ((call.step engine).run state).2

theorem after_concat (calls : List Call) (call : Call) (state : Statement × Session σ) :
    after engine (calls ++ [call]) state =
      ((call.step engine).run (after engine calls state)).2 := by
  rw [after_append]
  rfl

end SqlBridge.Statement
