import SqlBridge.Log.QueryReporter
import SqlBridge.Log.QueryStats

/-!
# Loggers

A logger takes the entries of queries that ran.  It answers with what became
visible outside, and keeps what it counts in itself.  A composite hands every
entry to each of its parts in turn.
-/

set_option autoImplicit false

namespace SqlBridge

/-- What a logger lets an observer see. -/
inductive Emission where
  | recorded (entry : LogEntry)
  | reported (notice : Notice)
  deriving DecidableEq

inductive Logger where
  | silent
  | recorder
  | stats (stats : QueryStats)
  | reporter (reporter : QueryReporter)
  | composite (parts : List Logger)

namespace Logger

mutual

/-- The emissions for an entry, in order, and the logger afterwards. -/
def log (entry : LogEntry) : Logger → List Emission × Logger
  | silent => ([], silent)
  | recorder => ([.recorded entry], recorder)
  | stats counted => ([], stats (counted.log entry.sql entry.elapsed))
  | reporter how => ([.reported (how.report entry)], reporter how)
  | composite parts =>
    let (emissions, after) := logAll entry parts
    (emissions, composite after)

def logAll (entry : LogEntry) : List Logger → List Emission × List Logger
  | [] => ([], [])
  | part :: rest =>
    let (first, part) := log entry part
    let (more, rest) := logAll entry rest
    (first ++ more, part :: rest)

end

mutual

/-- Every count in the tree back to zero. -/
def reset : Logger → Logger
  | silent => silent
  | recorder => recorder
  | stats _ => stats .empty
  | reporter how => reporter how
  | composite parts => composite (resetAll parts)

def resetAll : List Logger → List Logger
  | [] => []
  | part :: rest => reset part :: resetAll rest

end

mutual

/-- The counts in the tree, from left to right. -/
def allStats : Logger → List QueryStats
  | silent => []
  | recorder => []
  | stats counted => [counted]
  | reporter _ => []
  | composite parts => allStatsOf parts

def allStatsOf : List Logger → List QueryStats
  | [] => []
  | part :: rest => allStats part ++ allStatsOf rest

end

end Logger

end SqlBridge
