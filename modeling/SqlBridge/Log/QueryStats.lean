import SqlBridge.Log.Duration
import SqlBridge.Sql.QueryKind

/-!
# Query statistics

Counts and times of the logged queries since the last reset.  Counters are
64-bit words; times stop at the greatest word instead of wrapping.
-/

set_option autoImplicit false

namespace SqlBridge

structure QueryStats where
  totalQueries : UInt64 := 0
  updateCount : UInt64 := 0
  selectCount : UInt64 := 0
  totalNanoseconds : UInt64 := 0
  maxNanoseconds : UInt64 := 0
  /-- The query of the greatest time, the earliest of them; none while all times are zero. -/
  slowestQuery : Option String := none
  deriving DecidableEq

namespace QueryStats

def empty : QueryStats := {}

/-- A wrapping sum that is put right where it has wrapped. -/
def saturatingAdd (a b : UInt64) : UInt64 :=
  if UInt64.size ≤ a.toNat + b.toNat then .ofNat (UInt64.size - 1) else a + b

def log (stats : QueryStats) (sql : String) (elapsed : Duration) : QueryStats :=
  let kind := QueryKind.ofSql sql
  let nanoseconds := elapsed.clampedNanoseconds
  let isSlower := stats.maxNanoseconds < nanoseconds
  { totalQueries := stats.totalQueries + 1
    updateCount := if kind = .update then stats.updateCount + 1 else stats.updateCount
    selectCount := if kind = .select then stats.selectCount + 1 else stats.selectCount
    totalNanoseconds := saturatingAdd stats.totalNanoseconds nanoseconds
    maxNanoseconds := if isSlower then nanoseconds else stats.maxNanoseconds
    slowestQuery := if isSlower then some sql else stats.slowestQuery }

end QueryStats

end SqlBridge
