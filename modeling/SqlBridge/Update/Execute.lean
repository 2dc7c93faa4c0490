import SqlBridge.Session.Binding
import SqlBridge.Session.Statement

/-!
# Executing updates

An update is executed in a single pass: look up the table, drop a literal write
to its identity column, compile, prepare, bind, run.  The first failure ends it.
Whatever happens after the first blob was offered to the engine, the blobs are
released at the end.
-/

set_option autoImplicit false

namespace SqlBridge.Update

/-- The literals that the table admits. -/
def writableLiterals (update : Update) (info : ColumnInformation) : Fields Value :=
  match info.identity with
  | none => update.literals
  | some identity => Fields.without identity update.literals

def identityNotices (update : Update) (info : ColumnInformation) : List Notice :=
  match info.identity with
  | none => []
  | some identity =>
    if (update.writableLiterals info).length = update.literals.length then []
    else [.identityWriteDropped update.table identity]

variable {σ : Type} (engine : Engine σ)

/-- The arguments of the condition that the statement was compiled with. -/
def bindCondition (handle : Handle) : Option CompiledCondition → Step (Session σ) Unit
  | none => return ()
  | some compiled => Session.bindArguments engine handle compiled.arguments

/-- Binds everything and runs the statement, without arguments of its own. -/
def bindAndRun (update : Update) (statement : Statement) (literals : Fields Value)
    (info : ColumnInformation) (condition : Option CompiledCondition) :
    Step (BlobHolder × Session σ) Unit := do
  let handle := statement.handle
  let (bound, plain) ← (Step.beside literals
    (Session.bindExpressions engine handle update.expressions) : Step (Session σ) _)
  Step.ofExcept bound
  Session.bindLiterals engine handle info update.placeholder plain
  bindCondition engine handle condition
  let options := update.options.withAlreadyPrepared true
  let (ran, _) ← (Step.beside statement
    (Statement.execute engine .empty options) : Step (Session σ) _)
  let _ ← Step.ofExcept ran
  return ()

/-- The number of rows that the update has affected.  A query that assigns
nothing is refused; one that assigns nothing once the identity column is
protected affects no row. -/
def execute (update : Update) : Step (Session σ) Nat := do
  Step.ofExcept update.validate
  let info ← Session.columnInformation engine update.table
  let literals := update.writableLiterals info
  Session.notifyAll (update.identityNotices info)
  if assignsNothing literals update.expressions then
    Session.notify (.nothingToUpdate update.table)
    return 0
  else
    let condition := update.compiledCondition engine.dialect
    let text := update.sqlWith engine.dialect literals condition
    let statement ← Statement.prepare engine text {}
    let (outcome, holder) ← Step.beside BlobHolder.empty
      (update.bindAndRun engine statement literals info condition)
    Session.releaseHeld engine statement.handle holder
    Step.ofExcept outcome
    Session.reading fun state => engine.rowCount state statement.handle

end SqlBridge.Update
