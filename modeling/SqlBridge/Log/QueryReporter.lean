import SqlBridge.Log.Notice
import SqlBridge.ParamList
import SqlBridge.Text.Boundary

/-!
# Query reporter

Turns a log entry into a notice: the SQL cut to a number of bytes, the
arguments as JSON text, and a severity that slow queries may change.
-/

set_option autoImplicit false

namespace SqlBridge

/-- A query that ran: its text, the arguments handed over with the run, if any,
and the time that it took. -/
structure LogEntry where
  sql : String
  arguments : Option ParamList
  elapsed : Duration
  deriving DecidableEq

structure QueryReporter where
  severity : Severity := .debug
  maxSqlBytes : Option Nat := some 200
  slowThreshold : Option Duration := none
  deriving DecidableEq

namespace QueryReporter

/-- The SQL as it is if it fits, else truncated and followed by three dots. -/
def truncateSql (reporter : QueryReporter) (sql : String) : String :=
  match reporter.maxSqlBytes with
  | none => sql
  | some limit =>
    if sql.utf8ByteSize ≤ limit then sql
    else Text.truncate limit sql ++ "..."

def renderArguments : Option ParamList → String
  | none => "null"
  | some arguments => arguments.toJson

/-- A query that takes the threshold or longer is a warning, whatever else is set. -/
def effectiveSeverity (reporter : QueryReporter) (elapsed : Duration) : Severity :=
  match reporter.slowThreshold with
  | none => reporter.severity
  | some threshold => if threshold ≤ elapsed then .warn else reporter.severity

def report (reporter : QueryReporter) (entry : LogEntry) : Notice :=
  .queryLogged (reporter.effectiveSeverity entry.elapsed) (QueryKind.ofSql entry.sql) entry.elapsed
    (renderArguments entry.arguments) (reporter.truncateSql entry.sql)

end QueryReporter

end SqlBridge
