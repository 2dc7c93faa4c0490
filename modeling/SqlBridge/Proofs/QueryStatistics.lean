import Mathlib.Data.List.DropRight
import Mathlib.Data.List.Induction
import SqlBridge.Log.Call

/-!
# What query statistics tell

At any time the statistics tell of the queries logged since the last reset and of
no others: how many there were, of which kinds, how long they took together, and
which of them was the slowest.  Times stop at the greatest word; a total that has
stopped there stays there.
-/

set_option autoImplicit false

namespace SqlBridge

def maxWord : Nat :=
  UInt64.size - 1

/-- The time of an entry in nanoseconds, as far as a word can tell it. -/
def LogEntry.nanoseconds (entry : LogEntry) : Nat :=
  min entry.elapsed.nanoseconds maxWord

theorem LogEntry.toNat_clampedNanoseconds (entry : LogEntry) :
    entry.elapsed.clampedNanoseconds.toNat = entry.nanoseconds := by
  have fits : entry.nanoseconds < UInt64.size := by
    unfold LogEntry.nanoseconds maxWord UInt64.size
    omega
  exact UInt64.toNat_ofNat_of_lt' fits

namespace QueryStats

theorem toNat_saturatingAdd (a b : UInt64) :
    (saturatingAdd a b).toNat = min (a.toNat + b.toNat) maxWord := by
  unfold saturatingAdd
  split
  next wraps =>
    rw [maxWord, Nat.min_eq_right (by omega)]
    rfl
  next fits =>
    rw [UInt64.toNat_add, Nat.mod_eq_of_lt (not_le.mp fits), Nat.min_eq_left]
    unfold maxWord
    omega

theorem toNat_add_one {count : UInt64} {bound : Nat} (below : count.toNat ≤ bound)
    (short : bound + 1 < UInt64.size) : (count + 1).toNat = count.toNat + 1 := by
  rw [UInt64.toNat_add]
  exact Nat.mod_eq_of_lt (by change count.toNat + 1 < UInt64.size; omega)

/-! ## What there is to tell -/

def ofKind (kind : QueryKind) (entries : List LogEntry) : Nat :=
  entries.countP fun entry => QueryKind.ofSql entry.sql = kind

def totalTime (entries : List LogEntry) : Nat :=
  (entries.map LogEntry.nanoseconds).foldl (· + ·) 0

def longestTime (entries : List LogEntry) : Nat :=
  (entries.map LogEntry.nanoseconds).foldl max 0

/-- The query of the earliest entry that took longest, unless none took any time. -/
def slowest (entries : List LogEntry) : Option String :=
  if longestTime entries = 0 then none
  else (entries.find? fun entry => entry.nanoseconds = longestTime entries).map LogEntry.sql

structure TellsOf (stats : QueryStats) (entries : List LogEntry) : Prop where
  totalQueries : stats.totalQueries.toNat = entries.length
  updateCount : stats.updateCount.toNat = ofKind .update entries
  selectCount : stats.selectCount.toNat = ofKind .select entries
  totalNanoseconds : stats.totalNanoseconds.toNat = min (totalTime entries) maxWord
  maxNanoseconds : stats.maxNanoseconds.toNat = longestTime entries
  slowestQuery : stats.slowestQuery = slowest entries

/-! ## One more entry -/

variable {entries : List LogEntry} {entry : LogEntry}

theorem ofKind_concat (kind : QueryKind) (entries : List LogEntry) (entry : LogEntry) :
    ofKind kind (entries ++ [entry]) =
      if QueryKind.ofSql entry.sql = kind then ofKind kind entries + 1
      else ofKind kind entries := by
  rw [ofKind, List.countP_append, List.countP_singleton, ofKind]
  by_cases same : QueryKind.ofSql entry.sql = kind <;> simp [same]

theorem ofKind_le_length (kind : QueryKind) (entries : List LogEntry) :
    ofKind kind entries ≤ entries.length :=
  List.countP_le_length

theorem totalTime_concat (entries : List LogEntry) (entry : LogEntry) :
    totalTime (entries ++ [entry]) = totalTime entries + entry.nanoseconds := by
  rw [totalTime, List.map_append, List.map_singleton, List.foldl_concat, totalTime]

theorem longestTime_concat (entries : List LogEntry) (entry : LogEntry) :
    longestTime (entries ++ [entry]) = max (longestTime entries) entry.nanoseconds := by
  rw [longestTime, List.map_append, List.map_singleton, List.foldl_concat, longestTime]

theorem nanoseconds_le_longestTime (listed : entry ∈ entries) :
    entry.nanoseconds ≤ longestTime entries := by
  rw [longestTime, List.foldl_max]
  exact (List.le_max?_getD_of_mem (List.mem_map_of_mem listed)).trans (le_max_right ..)

theorem exists_longest (positive : 0 < longestTime entries) :
    ∃ entry ∈ entries, entry.nanoseconds = longestTime entries := by
  induction entries using List.reverseRecOn with
  | nil => exact absurd positive (lt_irrefl 0)
  | append_singleton before last ih =>
    rw [longestTime_concat] at positive ⊢
    by_cases slower : longestTime before < last.nanoseconds
    · exact ⟨last, by simp, (max_eq_right slower.le).symm⟩
    · have same := max_eq_left (not_lt.mp slower)
      rw [same] at positive ⊢
      obtain ⟨entry, listed, longest⟩ := ih positive
      exact ⟨entry, List.mem_append_left _ listed, longest⟩

theorem slowest_concat_of_slower (slower : longestTime entries < entry.nanoseconds) :
    slowest (entries ++ [entry]) = some entry.sql := by
  have unmatched : ∀ other ∈ entries, ¬ other.nanoseconds = entry.nanoseconds := by
    intro other listed same
    have bounded := nanoseconds_le_longestTime listed
    omega
  rw [slowest, longestTime_concat, max_eq_right slower.le, if_neg (by omega), List.find?_append,
    List.find?_eq_none.mpr (by simpa using unmatched)]
  simp

/-- A later entry that only equals the longest time does not displace the one that took it first. -/
theorem slowest_concat_of_not_slower (slower : ¬ longestTime entries < entry.nanoseconds) :
    slowest (entries ++ [entry]) = slowest entries := by
  rw [slowest, longestTime_concat, max_eq_left (not_lt.mp slower), slowest]
  split
  · rfl
  next positive =>
    obtain ⟨first, listed, longest⟩ := exists_longest (Nat.pos_of_ne_zero positive)
    have found : (entries.find? fun other =>
        other.nanoseconds = longestTime entries).isSome := by
      rw [List.find?_isSome]
      exact ⟨first, listed, by simpa using longest⟩
    rw [List.find?_append, Option.or_of_isSome found]

theorem tellsOf_empty : TellsOf .empty [] where
  totalQueries := rfl
  updateCount := rfl
  selectCount := rfl
  totalNanoseconds := rfl
  maxNanoseconds := rfl
  slowestQuery := rfl

/-- Each entry is told of as soon as it is logged. -/
theorem TellsOf.log {stats : QueryStats} (tells : TellsOf stats entries)
    (short : entries.length + 1 < UInt64.size) :
    TellsOf (stats.log entry.sql entry.elapsed) (entries ++ [entry]) := by
  have counted : ∀ {count : UInt64} {kind : QueryKind}, count.toNat = ofKind kind entries →
      (if QueryKind.ofSql entry.sql = kind then count + 1 else count).toNat =
        ofKind kind (entries ++ [entry]) := by
    intro count kind exact
    have below := ofKind_le_length kind entries
    rw [ofKind_concat]
    split
    · rw [toNat_add_one (exact.trans_le below) short, exact]
    · exact exact
  have isSlower : stats.maxNanoseconds < entry.elapsed.clampedNanoseconds ↔
      longestTime entries < entry.nanoseconds := by
    rw [UInt64.lt_iff_toNat_lt, tells.maxNanoseconds, LogEntry.toNat_clampedNanoseconds]
  refine ⟨?_, counted tells.updateCount, counted tells.selectCount, ?_, ?_, ?_⟩
  · change (stats.totalQueries + 1).toNat = (entries ++ [entry]).length
    rw [toNat_add_one tells.totalQueries.le short, tells.totalQueries, List.length_append,
      List.length_singleton]
  · change (saturatingAdd stats.totalNanoseconds entry.elapsed.clampedNanoseconds).toNat = _
    rw [toNat_saturatingAdd, tells.totalNanoseconds, LogEntry.toNat_clampedNanoseconds,
      totalTime_concat]
    omega
  · simp only [QueryStats.log, isSlower, longestTime_concat]
    split
    next slower => rw [LogEntry.toNat_clampedNanoseconds, max_eq_right slower.le]
    next slower => rw [tells.maxNanoseconds, max_eq_left (not_lt.mp slower)]
  · simp only [QueryStats.log, isSlower]
    split
    next slower => rw [slowest_concat_of_slower slower]
    next slower => rw [slowest_concat_of_not_slower slower, tells.slowestQuery]

end QueryStats

/-! ## Any number of calls -/

namespace Logger

def sinceReset (calls : List Call) : List LogEntry :=
  (calls.rtakeWhile fun call => call.entry?.isSome).filterMap Call.entry?

theorem sinceReset_concat_log (calls : List Call) (entry : LogEntry) :
    sinceReset (calls ++ [.log entry]) = sinceReset calls ++ [entry] := by
  rw [sinceReset, List.rtakeWhile_concat_pos _ _ _ rfl, List.filterMap_append]
  rfl

theorem sinceReset_concat_reset (calls : List Call) : sinceReset (calls ++ [.reset]) = [] := by
  rw [sinceReset, List.rtakeWhile_concat_neg _ _ _ (by simp [Call.entry?])]
  rfl

theorem length_sinceReset_le (calls : List Call) : (sinceReset calls).length ≤ calls.length :=
  (List.length_filterMap_le ..).trans (List.rtakeWhile_suffix _ _).length_le

/-- The induction is on the calls from the last one on, as that is the one that adds an entry or
starts anew. -/
theorem after_tellsOf (calls : List Call) (short : calls.length < UInt64.size) :
    ∃ stats, after calls (.stats .empty) = .stats stats ∧ stats.TellsOf (sinceReset calls) := by
  induction calls using List.reverseRecOn with
  | nil => exact ⟨.empty, rfl, QueryStats.tellsOf_empty⟩
  | append_singleton before call ih =>
    rw [List.length_append, List.length_singleton] at short
    obtain ⟨stats, counted, tells⟩ := ih (by omega)
    rw [after_concat, counted]
    cases call with
    | log entry =>
      have bounded := length_sinceReset_le before
      rw [sinceReset_concat_log]
      exact ⟨_, rfl, tells.log (by omega)⟩
    | reset =>
      rw [sinceReset_concat_reset]
      exact ⟨.empty, rfl, QueryStats.tellsOf_empty⟩

/-- After the reset come two updates, of which a word cannot tell that the second takes longer. -/
def overflowing : List Call :=
  [.log ⟨"SELECT 1", none, .ofSeconds 18446744073 709551615⟩, .reset,
    .log ⟨"UPDATE a SET b=1", none, .ofSeconds 18446744073 709551615⟩,
    .log ⟨"/* late */ update a SET b=2", none, .ofSeconds 18446744073709551615 999999999⟩,
    .log ⟨"select 2", none, .ofSeconds 0 7⟩]

theorem after_tellsOf_overflowing :
    overflowing.length < UInt64.size ∧
      ∃ stats, after overflowing (.stats .empty) = .stats stats ∧
        stats.TellsOf (sinceReset overflowing) ∧ stats.totalQueries.toNat = 3 ∧
        stats.updateCount.toNat = 2 ∧ stats.totalNanoseconds.toNat = maxWord ∧
        stats.slowestQuery = some "UPDATE a SET b=1" := by
  have short : overflowing.length < UInt64.size := by decide
  obtain ⟨stats, counted, tells⟩ := after_tellsOf overflowing short
  refine ⟨short, stats, counted, tells, ?_, ?_, ?_, ?_⟩
  · rw [tells.totalQueries]
    rfl
  · rw [tells.updateCount]
    decide +kernel
  · rw [tells.totalNanoseconds]
    decide +kernel
  · rw [tells.slowestQuery]
    decide +kernel

end Logger

end SqlBridge
