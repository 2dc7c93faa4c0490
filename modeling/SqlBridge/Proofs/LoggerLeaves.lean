import SqlBridge.Log.Call

/-!
# The leaves of a logger

A composite is nothing but the row of the loggers at its leaves, however deep it is.  Each of them
takes each entry once, from left to right, and keeps what it would have counted on its own.
-/

set_option autoImplicit false

namespace SqlBridge.Logger

mutual

def leaves : Logger → List Logger
  | silent => [silent]
  | recorder => [recorder]
  | stats counted => [stats counted]
  | reporter how => [reporter how]
  | composite parts => leavesOf parts

def leavesOf : List Logger → List Logger
  | [] => []
  | part :: rest => leaves part ++ leavesOf rest

end

def isStats : Logger → Bool
  | stats _ => true
  | _ => false

/-- What an observer sees when a leaf takes an entry. -/
def shown? (entry : LogEntry) : Logger → Option Emission
  | recorder => some (.recorded entry)
  | reporter how => some (.reported (how.report entry))
  | _ => none

/-! ## One call -/

mutual

/-- A tree lets an observer see what its leaves do, and each leaf goes on as it would alone. -/
theorem log_leaves (entry : LogEntry) (logger : Logger) :
    (logger.log entry).1 = logger.leaves.filterMap (shown? entry) ∧
      (logger.log entry).2.leaves = logger.leaves.map fun leaf => (leaf.log entry).2 := by
  cases logger with
  | composite parts => exact logAll_leaves entry parts
  | _ => exact ⟨rfl, rfl⟩

theorem logAll_leaves (entry : LogEntry) (parts : List Logger) :
    (logAll entry parts).1 = (leavesOf parts).filterMap (shown? entry) ∧
      leavesOf (logAll entry parts).2 = (leavesOf parts).map fun leaf => (leaf.log entry).2 := by
  cases parts with
  | nil => exact ⟨rfl, rfl⟩
  | cons part rest =>
    obtain ⟨first, part'⟩ := log_leaves entry part
    obtain ⟨more, rest'⟩ := logAll_leaves entry rest
    simp only [logAll, leavesOf, List.filterMap_append, List.map_append, first, more, part', rest',
      and_self]

end

mutual

theorem reset_leaves (logger : Logger) : logger.reset.leaves = logger.leaves.map reset := by
  cases logger with
  | composite parts => exact resetAll_leaves parts
  | _ => rfl

theorem resetAll_leaves (parts : List Logger) :
    leavesOf (resetAll parts) = (leavesOf parts).map reset := by
  cases parts with
  | nil => rfl
  | cons part rest =>
    rw [resetAll, leavesOf, leavesOf, List.map_append, reset_leaves part, resetAll_leaves rest]

end

mutual

theorem map_stats_allStats (logger : Logger) :
    logger.allStats.map stats = logger.leaves.filter isStats := by
  cases logger with
  | composite parts => exact map_stats_allStatsOf parts
  | _ => rfl

theorem map_stats_allStatsOf (parts : List Logger) :
    (allStatsOf parts).map stats = (leavesOf parts).filter isStats := by
  cases parts with
  | nil => rfl
  | cons part rest =>
    rw [allStatsOf, leavesOf, List.map_append, List.filter_append, map_stats_allStats part,
      map_stats_allStatsOf rest]

end

theorem leaves_step (call : Call) (logger : Logger) :
    (call.step logger).leaves = logger.leaves.map call.step := by
  cases call with
  | log entry => exact (log_leaves entry logger).2
  | reset => exact reset_leaves logger

def Call.shown? (call : Call) (leaf : Logger) : Option Emission :=
  call.entry?.bind fun entry => leaf.shown? entry

theorem emissions_eq (call : Call) (logger : Logger) :
    call.emissions logger = logger.leaves.filterMap call.shown? := by
  cases call with
  | log entry => exact (log_leaves entry logger).1
  | reset => exact (List.filterMap_eq_nil_iff.mpr fun _ _ => rfl).symm

/-- What has been logged before makes no difference to what a call shows. -/
theorem shown?_step (call earlier : Call) (leaf : Logger) :
    call.shown? (earlier.step leaf) = call.shown? leaf := by
  cases call with
  | reset => rfl
  | log entry => cases earlier <;> cases leaf <;> rfl

theorem isStats_step (call : Call) (leaf : Logger) : (call.step leaf).isStats = leaf.isStats := by
  cases call <;> cases leaf <;> rfl

/-! ## Any number of calls -/

theorem leaves_after (calls : List Call) (logger : Logger) :
    (after calls logger).leaves = logger.leaves.map (after calls) := by
  induction calls generalizing logger with
  | nil => exact (List.map_id logger.leaves).symm
  | cons call rest ih =>
    calc (after rest (call.step logger)).leaves
        = (call.step logger).leaves.map (after rest) := ih (call.step logger)
      _ = logger.leaves.map (after (call :: rest)) := by
        rw [leaves_step, List.map_map]
        rfl

theorem isStats_after (calls : List Call) (leaf : Logger) :
    (after calls leaf).isStats = leaf.isStats := by
  induction calls generalizing leaf with
  | nil => rfl
  | cons call rest ih => exact (ih (call.step leaf)).trans (isStats_step call leaf)

theorem emissionsOf_eq (calls : List Call) (logger : Logger) :
    emissionsOf calls logger = calls.map fun call => logger.leaves.filterMap call.shown? := by
  induction calls generalizing logger with
  | nil => rfl
  | cons call rest ih =>
    have unmoved : ∀ later : Call, (logger.leaves.map call.step).filterMap later.shown? =
        logger.leaves.filterMap later.shown? := by
      intro later
      rw [List.filterMap_map]
      exact congrArg (logger.leaves.filterMap ·) (funext (shown?_step later call))
    rw [emissionsOf, emissions_eq, ih, leaves_step, List.map_cons]
    simp only [unmoved]

theorem allStats_after (calls : List Call) (logger : Logger) :
    (after calls logger).allStats.map stats =
      logger.allStats.map fun counted => after calls (.stats counted) := by
  calc (after calls logger).allStats.map stats
      = (logger.leaves.map (after calls)).filter isStats := by
        rw [map_stats_allStats, leaves_after]
    _ = (logger.leaves.filter isStats).map (after calls) := by
        rw [List.filter_map]
        exact congrArg (fun kept => (logger.leaves.filter kept).map (after calls))
          (funext (isStats_after calls))
    _ = logger.allStats.map fun counted => after calls (.stats counted) := by
        rw [← map_stats_allStats, List.map_map]
        rfl

/-- A tree of loggers is the row of its leaves.  Each call shows what its leaves show, each of them
once and from left to right; each leaf comes to what it would come to alone; and so the statistics
in the tree are those of counting loggers that stand alone and take the same calls. -/
theorem after_flattens (calls : List Call) (logger : Logger) :
    emissionsOf calls logger = calls.map (fun call => logger.leaves.filterMap call.shown?) ∧
      (after calls logger).leaves = logger.leaves.map (after calls) ∧
      (after calls logger).allStats.map stats =
        logger.allStats.map fun counted => after calls (.stats counted) :=
  ⟨emissionsOf_eq calls logger, leaves_after calls logger, allStats_after calls logger⟩

end SqlBridge.Logger
