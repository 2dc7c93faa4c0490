import SqlBridge.Session.Basic

/-!
# The rows that are left

What a handle has yet to deliver is found out by fetching on until there is no row, or until a
fetch fails.  A fold over the rows that takes every one of them goes by this alone, and so it goes
the same way from any two states between which fetching cannot tell.
-/

set_option autoImplicit false

namespace SqlBridge

variable {σ β : Type}

/-- The rows up to the end of a result or up to the first failure, and the state in which the
fetch that found no further row has left the engine. -/
structure Remaining (σ : Type) where
  rows : List (List Value)
  failure? : Option Failure
  state : σ

namespace Remaining

def outcome (left : Remaining σ) : Except Failure (List (List Value)) :=
  match left.failure? with
  | none => .ok left.rows
  | some failure => .error failure

theorem rows_of_outcome {left : Remaining σ} {rows : List (List Value)}
    (fetched : left.outcome = .ok rows) : left.rows = rows := by
  rcases left with ⟨before, _ | failure, state⟩
  · exact Except.ok.inj fetched
  · cases fetched

def behind (row : List Value) (left : Remaining σ) : Remaining σ :=
  { left with rows := row :: left.rows }

theorem outcome_behind (row : List Value) (left : Remaining σ) :
    (left.behind row).outcome = left.outcome.map (row :: ·) := by
  rcases left with ⟨rows, _ | failure, state⟩ <;> rfl

end Remaining

namespace Engine

variable (engine : Engine σ) (handle : Handle)

def remaining (state : σ) : Remaining σ :=
  match _answered : engine.answer (.fetchRow handle) state with
  | (.error failure, later) => ⟨[], some failure, later⟩
  | (.ok none, later) => ⟨[], none, later⟩
  | (.ok (some row), later) => (remaining later).behind row
termination_by engine.rowsLeft state handle
decreasing_by
  have shrinks := engine.fetchRow_lt handle state row
  rw [_answered] at shrinks
  exact shrinks rfl

section

variable {engine} {handle}

theorem remaining_of_error {state later : σ} {failure : Failure}
    (answered : engine.answer (.fetchRow handle) state = (.error failure, later)) :
    engine.remaining handle state = ⟨[], some failure, later⟩ := by
  rw [remaining]
  split <;> simp_all

theorem remaining_of_end {state later : σ}
    (answered : engine.answer (.fetchRow handle) state = (.ok none, later)) :
    engine.remaining handle state = ⟨[], none, later⟩ := by
  rw [remaining]
  split <;> simp_all

theorem remaining_of_row {state later : σ} {row : List Value}
    (answered : engine.answer (.fetchRow handle) state = (.ok (some row), later)) :
    engine.remaining handle state = (engine.remaining handle later).behind row := by
  rw [remaining]
  split <;> simp_all

end

/-! ## Folding over them -/

/-- A fold that takes every row that is left fails only if a fetch does. -/
theorem foldRows_of_taken {take : β → List Value → Except Failure β} {step : β → List Value → β}
    (total : β) (session : Session σ)
    (taken : ∀ row ∈ (engine.remaining handle session.state).rows,
      ∀ total, take total row = .ok (step total row)) :
    let folded := (Session.foldRows engine handle take total).run session
    let left := engine.remaining handle session.state
    folded.1 = left.outcome.map (·.foldl step total) ∧ folded.2.state = left.state := by
  unfold Session.foldRows Step.run
  fun_induction Session.foldRowsFrom engine handle take total session with
  | case1 total session failure state answered =>
    rw [remaining_of_error answered]
    exact ⟨rfl, rfl⟩
  | case2 total session state answered =>
    rw [remaining_of_end answered]
    exact ⟨rfl, rfl⟩
  | case3 total session row state answered later failure refuses =>
    rw [remaining_of_row answered] at taken
    have accepts := taken row List.mem_cons_self total
    rw [refuses] at accepts
    cases accepts
  | case4 total session row state answered later more takes ih =>
    rw [remaining_of_row answered] at taken ⊢
    have accepts := taken row List.mem_cons_self total
    rw [takes] at accepts
    cases accepts
    obtain ⟨outcome, last⟩ := ih fun row left => taken row (List.mem_cons_of_mem _ left)
    refine ⟨?_, last⟩
    change _ = ((engine.remaining handle later.state).behind row).outcome.map _
    rw [outcome, Remaining.outcome_behind]
    cases (engine.remaining handle later.state).outcome <;> rfl

/-! ## The place of the cursor -/

def afterFetches : Nat → σ → σ
  | 0, state => state
  | count + 1, state => afterFetches count (engine.answer (.fetchRow handle) state).2

def SameCursor (state other : σ) : Prop :=
  ∀ count, (engine.answer (.fetchRow handle) (engine.afterFetches handle count state)).1 =
    (engine.answer (.fetchRow handle) (engine.afterFetches handle count other)).1

namespace SameCursor

variable {engine} {handle} {state other : σ}

theorem refl (state : σ) : engine.SameCursor handle state state :=
  fun _ => rfl

theorem answer (same : engine.SameCursor handle state other) :
    (engine.answer (.fetchRow handle) state).1 = (engine.answer (.fetchRow handle) other).1 :=
  same 0

theorem next (same : engine.SameCursor handle state other) :
    engine.SameCursor handle (engine.answer (.fetchRow handle) state).2
      (engine.answer (.fetchRow handle) other).2 :=
  fun count => same (count + 1)

/-- One fetch from either state: one answer, and again two states between which fetching cannot
tell. -/
theorem fetched (same : engine.SameCursor handle state other)
    {answered : Request.Answer (.fetchRow handle)} {later : σ}
    (asked : engine.answer (.fetchRow handle) state = (answered, later)) :
    ∃ last, engine.answer (.fetchRow handle) other = (answered, last) ∧
      engine.SameCursor handle later last := by
  refine ⟨(engine.answer (.fetchRow handle) other).2, Prod.ext ?_ rfl, ?_⟩
  · rw [← same.answer, asked]
  · have moved := same.next
    rwa [asked] at moved

theorem remaining (same : engine.SameCursor handle state other) :
    (engine.remaining handle state).rows = (engine.remaining handle other).rows ∧
      (engine.remaining handle state).outcome = (engine.remaining handle other).outcome ∧
        engine.SameCursor handle (engine.remaining handle state).state
          (engine.remaining handle other).state := by
  -- Along the rows of the one state; the other keeps step with it.
  fun_induction Engine.remaining engine handle state generalizing other with
  | case1 state failure later answered =>
    obtain ⟨last, asked, moved⟩ := same.fetched answered
    rw [remaining_of_error asked]
    exact ⟨rfl, rfl, moved⟩
  | case2 state later answered =>
    obtain ⟨last, asked, moved⟩ := same.fetched answered
    rw [remaining_of_end asked]
    exact ⟨rfl, rfl, moved⟩
  | case3 state row later answered ih =>
    obtain ⟨last, asked, moved⟩ := same.fetched answered
    obtain ⟨rows, outcome, ends⟩ := ih moved
    rw [remaining_of_row asked]
    refine ⟨congrArg (row :: ·) rows, ?_, ends⟩
    rw [Remaining.outcome_behind, Remaining.outcome_behind, outcome]

end SameCursor

end Engine

end SqlBridge
