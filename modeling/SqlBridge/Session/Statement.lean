import SqlBridge.Session.ResultColumns
import SqlBridge.Result.Visibility
import SqlBridge.Result.Row
import SqlBridge.Value.Map

/-!
# Statements

A statement is a prepared handle together with what callers see of its last
result.  It can be asked to be prepared anew; this happens when its handle is
next needed, so that values bound on the handle are the ones it runs with.
-/

set_option autoImplicit false

namespace SqlBridge

structure Statement where
  handle : Handle
  /-- The options of the handle, or of the one that is to replace it. -/
  prepareOptions : PrepareOptions
  fetchMode : FetchMode := .assoc
  /-- A replacement of the handle is pending. -/
  needsPrepare : Bool := false
  columns : List Column := []
  /-- The positions of the columns that callers see. -/
  visible : List Nat := []
  columnNames : List String := []

namespace Statement

def withoutResult (statement : Statement) : Statement :=
  { statement with columns := [], visible := [], columnNames := [] }

/-- The names at the given positions. -/
def namesAt (columns : List Column) (positions : List Nat) : List String :=
  positions.filterMap fun position => columns[position]?.map Column.name

def withResult (columns : List Column) (visible : List Nat) (statement : Statement) : Statement :=
  { statement with columns := columns, visible := visible, columnNames := namesAt columns visible }

/-- The next time the handle is needed it is to be one prepared insecurely. -/
def requireInsecure (statement : Statement) : Statement :=
  if statement.prepareOptions.isInsecure then statement
  else { statement with prepareOptions := .insecure, needsPrepare := true }

/-- The visible part of a native row; what a short row lacks is null. -/
def rowOf (statement : Statement) (values : List Value) : Row where
  columns := statement.columnNames
  values := statement.visible.map fun position => values.getD position .null

variable {σ : Type} (engine : Engine σ)

def prepare (sql : String) (options : PrepareOptions) : Step (Session σ) Statement := do
  let handle ← Session.prepare engine sql options
  return { handle := handle, prepareOptions := options }

def sql (statement : Statement) (state : σ) : String :=
  engine.sql state statement.handle

def rowCount (statement : Statement) (state : σ) : Nat :=
  engine.rowCount state statement.handle

/-- A handle of the same SQL, prepared with the statement's present options. -/
def replacement (statement : Statement) : Step (Session σ) Handle := do
  let text ← Session.reading fun state => engine.sql state statement.handle
  let handle ← Session.prepare engine text statement.prepareOptions
  Session.setFetchMode engine handle statement.fetchMode
  Session.notify (.reprepared text)
  return handle

/-- Replaces the handle if that is pending.  If the engine refuses, the
statement stays as it is and the replacement stays pending. -/
def settlePrepare : Step (Statement × Session σ) Unit := do
  let statement ← Step.own
  if statement.needsPrepare then
    let handle ← replacement engine statement
    Step.changeOwn fun statement => { statement with handle := handle, needsPrepare := false }
  else
    return ()

/-- A call that says its statement is prepared leaves a replacement pending. -/
def settleUnless (alreadyPrepared : Bool) : Step (Statement × Session σ) Unit :=
  if alreadyPrepared then return () else settlePrepare engine

/-- The handle to bind values on before a run. -/
def bindingHandle : Step (Statement × Session σ) Handle := do
  settlePrepare engine
  let statement ← Step.own
  return statement.handle

def setFetchMode (mode : FetchMode) : Step (Statement × Session σ) Unit := do
  let statement ← Step.own
  Session.setFetchMode engine statement.handle mode
  Step.changeOwn fun statement => { statement with fetchMode := mode }

/-- A call may leave the fetch mode as it is. -/
def applyFetchMode : Option FetchMode → Step (Statement × Session σ) Unit
  | none => return ()
  | some mode => setFetchMode engine mode

/-- The error record of a failed run, chosen from those of the two handles. -/
def failureRecord (handle : Handle) : Step (Session σ) ErrorRecord := do
  let connection ← Session.reading engine.connectionError
  let statement ← Session.reading fun state => engine.statementError state handle
  let text ← Session.reading fun state => engine.sql state handle
  let record := ErrorRecord.reconcile connection (some statement)
  Session.notifyAll (Notice.ofReconciliation connection (some statement))
  Session.notify (.executeFailed text record)
  return record

/-- Hands the logger an entry for a run that began at the given time. -/
def logRun (handle : Handle) (arguments : Option ParamList) (started : Nat) :
    Step (Session σ) Unit :=
  Step.change fun session =>
    session.logged
      { sql := engine.sql session.state handle
        arguments := arguments
        elapsed := ⟨engine.clock session.state - started⟩ }

/-- Runs a handle, registers the buffers of its result and logs the run.  The
answer is the columns. -/
def runHandle (handle : Handle) (arguments : Option ParamList) :
    Step (Session σ) (List Column) := do
  let started ← Session.reading engine.clock
  let succeeded ← Session.run engine handle arguments
  if succeeded then
    let columns ← Session.bindResultColumns engine handle
    logRun engine handle arguments started
    return columns
  else
    Step.fail (.execution (← failureRecord engine handle))

def hiddenNotices (columns : List Column) (visible : List Nat) : List Notice :=
  if visible.length = columns.length then []
  else [.columnsHidden (columns.length - visible.length)]

/-- Runs the statement.  The result of the run before is forgotten first, so a
failed run leaves none.  An answer is always `true`. -/
def execute (arguments : ParamList) (options : QueryOptions) :
    Step (Statement × Session σ) Bool := do
  settleUnless engine options.alreadyPrepared
  applyFetchMode engine options.mode?
  Step.changeOwn withoutResult
  let statement ← Step.own
  let columns ← runHandle engine statement.handle arguments.supplied?
  let visible := visiblePositions columns options.dropColumns
  Step.within (Session.notifyAll (hiddenNotices columns visible))
  Step.changeOwn (withResult columns visible)
  return true

def fetch (statement : Statement) : Step (Session σ) (Option Row) := do
  return (← Session.fetchRow engine statement.handle).map statement.rowOf

/-- All rows that are left. -/
def fetchAll (statement : Statement) : Step (Session σ) (List Row) := do
  let rows ← Session.foldRows engine statement.handle
    (fun rows values => .ok (statement.rowOf values :: rows)) []
  return rows.reverse

/-- One visible column of all rows that are left. -/
def fetchColumn (statement : Statement) (index : Nat) : Step (Session σ) (List Value) := do
  let values ← Session.foldRows engine statement.handle
    (fun column values => match (statement.rowOf values).getAt? index with
      | some value => .ok (value :: column)
      | none => .error (.indexOutOfRange index)) []
  return values.reverse

/-- The value of a native row at an index. -/
def valueAt (values : List Value) (index : Nat) : Except Failure Value :=
  match values[index]? with
  | some value => .ok value
  | none => .error (.indexOutOfRange index)

def fileRow (keyIndex valueIndex : Nat) (map : ValueMap) (values : List Value) :
    Except Failure ValueMap := do
  let key ← valueAt values keyIndex
  let value ← valueAt values valueIndex
  return map.insert key value

/-- Maps one native column to another over all rows that are left; of two rows
with the same key the later one counts.  The indices address the native
columns, hidden ones included.  When they are those of a two-column result the
engine delivers the pairs itself. -/
def fetchAllKeyed (keyIndex valueIndex : Nat) : Step (Statement × Session σ) ValueMap := do
  let statement ← Step.own
  let count ← Session.reading fun state => engine.columnCount state statement.handle
  if keyIndex = 0 ∧ valueIndex = 1 ∧ count = 2 then
    setFetchMode engine .keyPair
    let pairs ← Session.fetchKeyPairs engine statement.handle
    return pairs.foldl (fun map pair => map.insert pair.1 pair.2) ValueMap.empty
  else
    setFetchMode engine .num
    Session.foldRows engine statement.handle (fileRow keyIndex valueIndex) ValueMap.empty

end Statement

end SqlBridge
