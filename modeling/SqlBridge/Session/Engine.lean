import SqlBridge.Failure
import SqlBridge.Options
import SqlBridge.ColumnInformation
import SqlBridge.Sql.Dialect
import SqlBridge.Result.Column
import SqlBridge.ParamList

/-!
# Engines

An engine is what lies outside: the driver with its server.  It is known by its
answers to requests and by what can be read off its state.  Nothing else is
assumed of it, except that a result has finitely many rows.
-/

set_option autoImplicit false

namespace SqlBridge

/-- A native statement.  Handles are numbered by the attempts to prepare one,
so no number is ever given twice. -/
structure Handle where
  number : Nat
  deriving DecidableEq

/-- Columns are counted from zero. -/
inductive Request where
  | columnInformation (table : String)
  | prepare (handle : Handle) (sql : String) (options : PrepareOptions)
  | setFetchMode (handle : Handle) (mode : FetchMode)
  /-- Without arguments the values bound beforehand are used. -/
  | run (handle : Handle) (arguments : Option ParamList)
  | columnMeta (handle : Handle) (index : Nat)
  | bindColumn (handle : Handle) (index : Nat) (buffer : OutputBuffer)
  | bindValue (handle : Handle) (placeholder : String) (value : Value)
  /-- The engine may use the bytes until the blobs of the handle are released. -/
  | bindBlob (handle : Handle) (placeholder : String) (blob : ByteArray)
  | releaseBlobs (handle : Handle)
  | fetchRow (handle : Handle)
  /-- All rows that are left, as pairs of their first and second value. -/
  | fetchKeyPairs (handle : Handle)
  deriving DecidableEq

/-- What answers a request.  A run answers whether it succeeded; the reason of
a failed one is read off the error records. -/
abbrev Request.Answer : Request → Type
  | .columnInformation _ => Except Failure ColumnInformation
  | .prepare _ _ _ => Except Failure Unit
  | .setFetchMode _ _ => Unit
  | .run _ _ => Bool
  | .columnMeta _ _ => Except Failure ColumnMeta
  | .bindColumn _ _ _ => Except Failure Unit
  | .bindValue _ _ _ => Except Failure Unit
  | .bindBlob _ _ _ => Except Failure Unit
  | .releaseBlobs _ => Unit
  | .fetchRow _ => Except Failure (Option (List Value))
  | .fetchKeyPairs _ => Except Failure (List (Value × Value))

structure Engine (σ : Type) where
  dialect : Dialect := {}
  answer : (request : Request) → σ → request.Answer × σ
  connectionError : σ → ErrorRecord
  statementError : σ → Handle → ErrorRecord
  /-- The SQL that a handle was prepared from. -/
  sql : σ → Handle → String
  columnCount : σ → Handle → Nat
  rowCount : σ → Handle → Nat
  /-- Nanoseconds since some moment. -/
  clock : σ → Nat
  /-- A bound on the rows that a handle can still deliver. -/
  rowsLeft : σ → Handle → Nat
  fetchRow_lt : ∀ (handle : Handle) (state : σ) (row : List Value),
    (answer (.fetchRow handle) state).1 = .ok (some row) →
      rowsLeft (answer (.fetchRow handle) state).2 handle < rowsLeft state handle

end SqlBridge
