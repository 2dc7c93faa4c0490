import SqlBridge.Log.Logger

/-!
# Calls to a logger

What happens to a logger, as data: queries are logged, and from time to time
every count goes back to zero.
-/

set_option autoImplicit false

namespace SqlBridge.Logger

inductive Call where
  | log (entry : LogEntry)
  | reset
  deriving DecidableEq

namespace Call

def step : Call → Logger → Logger
  | .log entry, logger => (logger.log entry).2
  | .reset, logger => logger.reset

/-- The entry that a call logs, if it logs one. -/
def entry? : Call → Option LogEntry
  | .log entry => some entry
  | .reset => none

/-- What an observer sees of a call. -/
def emissions : Call → Logger → List Emission
  | .log entry, logger => (logger.log entry).1
  | .reset, _ => []

end Call

/-- What calls make of a logger, one after the other. -/
def after (calls : List Call) (logger : Logger) : Logger :=
  calls.foldl (fun logger call => call.step logger) logger

/-- What an observer sees of calls that follow each other, for each in turn. -/
def emissionsOf : List Call → Logger → List (List Emission)
  | [], _ => []
  | call :: rest, logger => call.emissions logger :: emissionsOf rest (call.step logger)

theorem after_concat (calls : List Call) (call : Call) (logger : Logger) :
    after (calls ++ [call]) logger = call.step (after calls logger) := by
  rw [after, List.foldl_append]
  rfl

end SqlBridge.Logger
