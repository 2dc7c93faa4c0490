import SqlBridge.ErrorRecord
import SqlBridge.Log.Duration
import SqlBridge.Sql.QueryKind

/-!
# Notices

What the library tells an observer while it works.  A notice is a cause with
its particulars; severity, topic, text and fields follow from the cause.
-/

set_option autoImplicit false

namespace SqlBridge

inductive Severity where
  | trace
  | debug
  | info
  | warn
  | error
  deriving DecidableEq

namespace Severity

def rank : Severity → Nat
  | trace => 0
  | debug => 1
  | info => 2
  | warn => 3
  | error => 4

def label : Severity → String
  | trace => "TRACE"
  | debug => "DEBUG"
  | info => "INFO"
  | warn => "WARN"
  | error => "ERROR"

instance : LE Severity := ⟨fun milder graver => milder.rank ≤ graver.rank⟩

instance (milder graver : Severity) : Decidable (milder ≤ graver) :=
  inferInstanceAs (Decidable (milder.rank ≤ graver.rank))

end Severity

inductive Notice where
  | identityWriteDropped (table column : String)
  | nothingToUpdate (table : String)
  | columnLeftUnbound (column nativeType : String)
  | columnsHidden (count : Nat)
  | bothHandlesFailed (connection statement : ErrorRecord)
  | executeFailed (sql : String) (record : ErrorRecord)
  | reprepared (sql : String)
  | queryLogged (severity : Severity) (kind : QueryKind) (elapsed : Duration)
      (arguments sql : String)
  deriving DecidableEq

inductive NoticeField where
  | text (text : String)
  | count (count : Nat)
  | number (number : Binary64)
  deriving DecidableEq

namespace Notice

/-- What is to be told when the error of a failed run is chosen from two records. -/
def ofReconciliation (connection : ErrorRecord) (statement : Option ErrorRecord) : List Notice :=
  match ErrorRecord.overruled? connection statement with
  | none => []
  | some overruled => [bothHandlesFailed connection overruled]

def severity : Notice → Severity
  | columnsHidden .. => .trace
  | queryLogged severity .. => severity
  | _ => .debug

def topic : Notice → String
  | identityWriteDropped .. | nothingToUpdate .. => "msorm.update"
  | columnLeftUnbound .. | columnsHidden .. => "msorm.bind"
  | bothHandlesFailed .. | executeFailed .. => "msorm.error"
  | reprepared .. => "msorm.prepare"
  | queryLogged .. => "msorm.sql"

def text? : Notice → Option String
  | identityWriteDropped .. => some "dropping write to identity column"
  | nothingToUpdate .. => some "nothing left to update after identity protection"
  | columnLeftUnbound .. => some "unclassified column type, left unbound"
  | columnsHidden .. => some "technical columns removed from result"
  | bothHandlesFailed .. => some "both handles reported an error; keeping the connection error"
  | executeFailed .. => some "execute failed"
  | reprepared .. => some "statement re-prepared"
  | queryLogged .. => none

def fields : Notice → List (String × NoticeField)
  | identityWriteDropped table column => [("table", .text table), ("column", .text column)]
  | nothingToUpdate table => [("table", .text table)]
  | columnLeftUnbound column nativeType =>
    [("column", .text column), ("native_type", .text nativeType)]
  | columnsHidden count => [("hidden", .count count)]
  | bothHandlesFailed connection statement =>
    [("connection", .text connection.text), ("statement", .text statement.text)]
  | executeFailed sql record => [("sql", .text sql), ("error", .text record.text)]
  | reprepared sql => [("sql", .text sql)]
  | queryLogged _ kind elapsed arguments sql =>
    [("query_type", .text kind.name), ("duration_ms", .number elapsed.milliseconds),
      ("args", .text arguments), ("sql", .text sql)]

end Notice

end SqlBridge
