import SqlBridge.Session.Script
import SqlBridge.Proofs.Transcript

/-!
# The SQL of a handle

What an engine tells of a handle is the text that the handle was prepared from.
Engines that follow scripts keep to this.
-/

set_option autoImplicit false

namespace SqlBridge

open Transcript

/-- The SQL of a handle is the text that it was prepared from, until it is prepared again. -/
def Engine.KeepsSql {σ : Type} (engine : Engine σ) : Prop :=
  ∀ state handle text options events,
    (engine.answer (.prepare handle text options) state).1 = .ok () →
      (∀ other options, .prepare handle other options ∉ requests events) →
        engine.sql (stateAfter engine (engine.answer (.prepare handle text options) state).2 events)
          handle = text

namespace Script.World

def Holds (world : World) (handle : Handle) (text : String) : Prop :=
  ∃ live, world.find? handle = some live ∧ live.sql = text

namespace Holds

variable {world : World} {handle other : Handle} {text : String}

theorem store {live : Live} (holds : world.Holds handle text)
    (same : other = handle → live.sql = text) : (world.store other live).Holds handle text := by
  by_cases stored : other = handle
  · rw [← stored]
    exact ⟨live, find?_store_self world other live, same stored⟩
  · obtain ⟨before, found, sql⟩ := holds
    exact ⟨before, (find?_store_of_ne world (Ne.symm stored) live).trans found, sql⟩

/-- What a request changes of a handle in use is not its SQL. -/
theorem update {live changed : Live} (holds : world.Holds handle text)
    (found : world.find? other = some live) (sql : changed.sql = live.sql) :
    (world.store other changed).Holds handle text := by
  apply holds.store
  rintro rfl
  obtain ⟨before, foundBefore, sqlBefore⟩ := holds
  rw [found] at foundBefore
  cases foundBefore
  exact sql.trans sqlBefore

theorem run (holds : world.Holds handle text) (other : Handle) :
    (world.run other).2.Holds handle text := by
  unfold World.run
  split
  · exact holds
  · rename_i live found
    dsimp only
    split
    · exact holds.update found rfl
    · exact holds.update found rfl

theorem fetchRow (holds : world.Holds handle text) (other : Handle) :
    (world.fetchRow other).2.Holds handle text := by
  unfold World.fetchRow
  split
  · exact holds
  · rename_i live found
    split
    · exact holds
    · exact holds
    · exact holds.update found rfl

theorem fetchKeyPairsFrom (holds : world.Holds handle text) (other : Handle)
    (pairs : List (Value × Value)) :
    (world.fetchKeyPairsFrom other pairs).2.Holds handle text := by
  fun_induction World.fetchKeyPairsFrom other pairs world with
  | case1 pairs world failure later fetched =>
    have kept := holds.fetchRow other
    rwa [fetched] at kept
  | case2 pairs world later fetched =>
    have kept := holds.fetchRow other
    rwa [fetched] at kept
  | case3 pairs world row later fetched ih =>
    have kept := holds.fetchRow other
    rw [fetched] at kept
    exact ih kept

/-- Only preparing a handle again can change its SQL. -/
theorem answer (holds : world.Holds handle text) {request : Request}
    (other : ∀ text options, request ≠ .prepare handle text options) :
    (World.answer request world).2.Holds handle text := by
  cases request with
  | prepare prepared sql options =>
    have unlike : prepared ≠ handle := fun same => other sql options (same ▸ rfl)
    unfold World.answer World.prepare
    dsimp only
    split
    · exact holds
    · exact holds.store fun same => absurd same unlike
  | run handle arguments => exact holds.run handle
  | fetchRow handle => exact holds.fetchRow handle
  | fetchKeyPairs handle => exact holds.fetchKeyPairsFrom handle []
  | _ => exact holds

theorem stateAfter (dialect : Dialect) {events : List Event} (holds : world.Holds handle text)
    (others : ∀ text options, .prepare handle text options ∉ requests events) :
    (stateAfter (engine dialect) world events).Holds handle text := by
  induction events generalizing world with
  | nil => exact holds
  | cons event rest ih =>
    cases event with
    | emitted emission => exact ih holds others
    | exchange request answer =>
      refine ih (holds.answer ?_) fun text options later =>
        others text options (List.mem_cons_of_mem _ later)
      intro text options same
      exact others text options (same ▸ List.mem_cons_self)

end Holds

end Script.World

theorem Script.keepsSql_engine (dialect : Dialect) : (Script.engine dialect).KeepsSql := by
  intro world handle text options events prepared others
  have holds : ((Script.engine dialect).answer (.prepare handle text options) world).2.Holds
      handle text := by
    change (World.prepare world handle text).1 = _ at prepared
    change (World.prepare world handle text).2.Holds handle text
    unfold World.prepare at prepared ⊢
    dsimp only at prepared ⊢
    split at prepared
    · cases prepared
    · exact ⟨_, World.find?_store_self world handle _, rfl⟩
  obtain ⟨live, found, sql⟩ := holds.stateAfter dialect others
  change ((World.find? _ handle).map Live.sql).getD "" = text
  rw [found]
  exact sql

end SqlBridge
