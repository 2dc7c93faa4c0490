import SqlBridge.Failure

/-!
# Steps

A step acts on a state and either answers or fails.  What it has done to the
state stays done in both cases: nothing is rolled back.
-/

set_option autoImplicit false

namespace SqlBridge

def Step (ρ α : Type) : Type :=
  ρ → Except Failure α × ρ

namespace Step

variable {ρ σ α β : Type}

def run (step : Step ρ α) (state : ρ) : Except Failure α × ρ :=
  step state

/-- The first failure ends the sequence, with the state as it is then. -/
def andThen (step : Step ρ α) (next : α → Step ρ β) : Step ρ β := fun state =>
  match step state with
  | (.ok answer, later) => next answer later
  | (.error failure, later) => (.error failure, later)

instance : Monad (Step ρ) where
  pure answer := fun state => (.ok answer, state)
  bind := andThen

def ofExcept (outcome : Except Failure α) : Step ρ α := fun state =>
  (outcome, state)

def fail (failure : Failure) : Step ρ α :=
  ofExcept (.error failure)

/-- Reads the state. -/
def reading (view : ρ → α) : Step ρ α := fun state =>
  (.ok (view state), state)

def change (update : ρ → ρ) : Step ρ Unit := fun state =>
  (.ok (), update state)

/-- A step on the second part of a pair, which leaves the first as it is. -/
def within (step : Step σ α) : Step (ρ × σ) α := fun state =>
  let (outcome, later) := step state.2
  (outcome, (state.1, later))

instance : MonadLift (Step σ) (Step (ρ × σ)) := ⟨within⟩

/-- Reads the first part of a pair. -/
def own : Step (ρ × σ) ρ :=
  reading Prod.fst

def changeOwn (update : ρ → ρ) : Step (ρ × σ) Unit :=
  change fun state => (update state.1, state.2)

/-- Runs a step with something of its own beside the state.  The answer is its
outcome, failure or not, and what it has made of its own thing. -/
def beside (own : ρ) (step : Step (ρ × σ) α) : Step σ (Except Failure α × ρ) := fun state =>
  let (outcome, (own, later)) := step (own, state)
  (.ok (outcome, own), later)

@[simp] theorem run_pure (answer : α) (state : ρ) :
    (pure answer : Step ρ α).run state = (.ok answer, state) := rfl

theorem run_bind (step : Step ρ α) (next : α → Step ρ β) (state : ρ) :
    (step >>= next).run state = match step.run state with
      | (.ok answer, later) => (next answer).run later
      | (.error failure, later) => (.error failure, later) := rfl

@[simp] theorem run_ofExcept (outcome : Except Failure α) (state : ρ) :
    (ofExcept outcome).run state = (outcome, state) := rfl

@[simp] theorem run_fail (failure : Failure) (state : ρ) :
    (fail failure : Step ρ α).run state = (.error failure, state) := rfl

@[simp] theorem run_reading (view : ρ → α) (state : ρ) :
    (reading view).run state = (.ok (view state), state) := rfl

@[simp] theorem run_change (update : ρ → ρ) (state : ρ) :
    (change update).run state = (.ok (), update state) := rfl

@[simp] theorem run_own (state : ρ × σ) :
    (own : Step (ρ × σ) ρ).run state = (.ok state.1, state) := rfl

@[simp] theorem run_changeOwn (update : ρ → ρ) (state : ρ × σ) :
    (changeOwn update).run state = (.ok (), (update state.1, state.2)) := rfl

@[simp] theorem run_within (step : Step σ α) (state : ρ × σ) :
    (within step : Step (ρ × σ) α).run state =
      ((step.run state.2).1, (state.1, (step.run state.2).2)) := rfl

/-- A lifted step is one within the pair. -/
@[simp] theorem run_lift (step : Step σ α) (state : ρ × σ) :
    (liftM step : Step (ρ × σ) α).run state =
      ((step.run state.2).1, (state.1, (step.run state.2).2)) := rfl

@[simp] theorem run_beside (own : ρ) (step : Step (ρ × σ) α) (state : σ) :
    (beside own step).run state =
      (.ok ((step.run (own, state)).1, (step.run (own, state)).2.1),
        (step.run (own, state)).2.2) := rfl

theorem bind_assoc {γ : Type} (step : Step ρ α) (next : α → Step ρ β) (last : β → Step ρ γ) :
    step >>= next >>= last = step >>= fun answer => next answer >>= last := by
  funext state
  change (step >>= next >>= last).run state =
    (step >>= fun answer => next answer >>= last).run state
  simp only [run_bind]
  rcases step.run state with ⟨_ | _, _⟩ <;> rfl

theorem run_bind_ok {step : Step ρ α} {state later : ρ} {answer : α}
    (answered : step.run state = (.ok answer, later)) (next : α → Step ρ β) :
    (step >>= next).run state = (next answer).run later := by
  rw [run_bind, answered]

theorem run_bind_error {step : Step ρ α} {state later : ρ} {failure : Failure}
    (failed : step.run state = (.error failure, later)) (next : α → Step ρ β) :
    (step >>= next).run state = (.error failure, later) := by
  rw [run_bind, failed]

end Step

end SqlBridge
