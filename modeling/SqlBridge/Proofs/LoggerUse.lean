import SqlBridge.Proofs.StatementCall

/-!
# Which steps never call the logger

The logger of a session is called where a run is logged, and nowhere else.  A step that does not
come there goes the same way whatever logger the session has, and leaves that logger as it was.
-/

set_option autoImplicit false

namespace SqlBridge

open Transcript

variable {ρ σ α β : Type}

namespace Step

def CommutesAt (change : ρ → ρ) (step : Step ρ α) (state : ρ) : Prop :=
  step.run (change state) = ((step.run state).1, change (step.run state).2)

namespace CommutesAt

variable {change : ρ → ρ} {state : ρ}

theorem bind {step : Step ρ α} {next : α → Step ρ β} (first : CommutesAt change step state)
    (second : ∀ answer later, step.run state = (.ok answer, later) →
      CommutesAt change (next answer) later) : CommutesAt change (step >>= next) state := by
  unfold CommutesAt at first ⊢
  rw [run_bind, run_bind, first]
  rcases ran : step.run state with ⟨failure | answer, later⟩
  · rfl
  · exact second answer later ran

theorem lift {own : σ} {step : Step ρ α} (commutes : CommutesAt change step state) :
    CommutesAt (Prod.map id change) (liftM step : Step (σ × ρ) α) (own, state) := by
  unfold CommutesAt at commutes ⊢
  rw [run_lift, run_lift, Prod.map_apply, commutes]
  rfl

end CommutesAt

end Step

namespace Session

def withLogger (logger : Option Logger) (session : Session σ) : Session σ :=
  { session with logger := logger }

/-- From every session on, the step never calls the logger. -/
def Unlogged (step : Step (Session σ) α) : Prop :=
  ∀ logger session, Step.CommutesAt (withLogger logger) step session

namespace Unlogged

variable (engine : Engine σ)

theorem pure (answer : α) : Unlogged (Pure.pure answer : Step (Session σ) α) :=
  fun _ _ => rfl

theorem ofExcept (outcome : Except Failure α) :
    Unlogged (Step.ofExcept outcome : Step (Session σ) α) :=
  fun _ _ => rfl

theorem view {view : Session σ → α}
    (same : ∀ logger session, view (session.withLogger logger) = view session) :
    Unlogged (Step.reading view) := by
  intro logger session
  rw [Step.CommutesAt, Step.run_reading, Step.run_reading, same]

theorem change {update : Session σ → Session σ}
    (commutes : ∀ logger session,
      update (session.withLogger logger) = (update session).withLogger logger) :
    Unlogged (Step.change update) := by
  intro logger session
  rw [Step.CommutesAt, Step.run_change, Step.run_change, commutes]

theorem reading (view : σ → α) : Unlogged (Session.reading view) :=
  .view fun _ _ => rfl

theorem notifyAll (notices : List Notice) : Unlogged (Session.notifyAll (σ := σ) notices) :=
  .change fun _ _ => rfl

theorem ask (request : Request) : Unlogged (Session.ask engine request) :=
  fun _ _ => rfl

theorem bind {step : Step (Session σ) α} {next : α → Step (Session σ) β} (first : Unlogged step)
    (second : ∀ answer, Unlogged (next answer)) : Unlogged (step >>= next) :=
  fun logger session => (first logger session).bind fun answer later _ =>
    second answer logger later

end Unlogged

theorem compositional_unlogged : Compositional (σ := σ) fun step => Unlogged step where
  pure := .pure
  reading := .reading
  notifyAll := .notifyAll
  bind := .bind

variable (engine : Engine σ)

theorem unlogged_prepare (sql : String) (options : PrepareOptions) :
    Unlogged (prepare engine sql options) := by
  apply Unlogged.bind (.view fun _ _ => rfl)
  intro handle
  apply Unlogged.bind (.change fun _ _ => rfl)
  intro _
  apply Unlogged.bind (.ask engine (.prepare handle sql options))
  intro answer
  exact .bind (.ofExcept answer) fun _ => .pure handle

theorem unlogged_bindResultColumns (handle : Handle) :
    Unlogged (bindResultColumns engine handle) := by
  apply compositional_unlogged.bindResultColumns
  · intro index
    exact .bind (.ask engine _) .ofExcept
  · intro index buffer
    exact .bind (.ask engine _) .ofExcept

end Session

namespace Statement

variable (engine : Engine σ)

theorem unlogged_failureRecord (handle : Handle) :
    Session.Unlogged (failureRecord engine handle) := by
  apply Session.Unlogged.bind (.reading engine.connectionError)
  intro connection
  apply Session.Unlogged.bind (.reading _)
  intro statement
  apply Session.Unlogged.bind (.reading _)
  intro text
  apply Session.Unlogged.bind (.notifyAll _)
  intro _
  apply Session.Unlogged.bind (.notifyAll _)
  intro _
  exact .pure _

theorem unlogged_replacement (statement : Statement) :
    Session.Unlogged (replacement engine statement) := by
  apply Session.Unlogged.bind (.reading _)
  intro text
  apply Session.Unlogged.bind (Session.unlogged_prepare engine text statement.prepareOptions)
  intro handle
  apply Session.Unlogged.bind (.ask engine (.setFetchMode handle statement.fetchMode))
  intro _
  apply Session.Unlogged.bind (.notifyAll _)
  intro _
  exact .pure handle

def UnloggedAt (step : Step (Statement × Session σ) α) (start : Statement × Session σ) : Prop :=
  ∀ logger, Step.CommutesAt (Prod.map id (Session.withLogger logger)) step start

namespace UnloggedAt

variable {engine} {start : Statement × Session σ}

theorem pure (answer : α) :
    UnloggedAt (Pure.pure answer : Step (Statement × Session σ) α) start :=
  fun _ => rfl

theorem changeOwn (update : Statement → Statement) :
    UnloggedAt (Step.changeOwn update : Step (Statement × Session σ) Unit) start :=
  fun _ => rfl

theorem lift {step : Step (Session σ) α} (unlogged : Session.Unlogged step) :
    UnloggedAt (liftM step : Step (Statement × Session σ) α) start :=
  fun logger => (unlogged logger start.2).lift

theorem bind {step : Step (Statement × Session σ) α} {next : α → Step (Statement × Session σ) β}
    (first : UnloggedAt step start)
    (second : ∀ answer later, step.run start = (.ok answer, later) →
      UnloggedAt (next answer) later) : UnloggedAt (step >>= next) start :=
  fun logger => (first logger).bind fun answer later ran => second answer later ran logger

theorem own {next : Statement → Step (Statement × Session σ) β}
    (second : UnloggedAt (next start.1) start) : UnloggedAt (Step.own >>= next) start :=
  .bind (fun _ => rfl) fun _ _ read => by cases read; exact second

end UnloggedAt

theorem unloggedAt_setFetchMode (mode : FetchMode) (start : Statement × Session σ) :
    UnloggedAt (setFetchMode engine mode) start := by
  apply UnloggedAt.own
  apply UnloggedAt.bind (.lift (.ask engine _))
  intro _ _ _
  exact .changeOwn _

theorem unloggedAt_applyFetchMode (mode : Option FetchMode) (start : Statement × Session σ) :
    UnloggedAt (applyFetchMode engine mode) start := by
  cases mode with
  | none => exact .pure ()
  | some mode => exact unloggedAt_setFetchMode engine mode start

theorem unloggedAt_settleUnless (alreadyPrepared : Bool) (start : Statement × Session σ) :
    UnloggedAt (settleUnless engine alreadyPrepared) start := by
  unfold settleUnless
  split
  · exact .pure ()
  · apply UnloggedAt.own
    split
    · apply UnloggedAt.bind (.lift (unlogged_replacement engine start.1))
      intro _ _ _
      exact .changeOwn _
    · exact .pure ()

end Statement

end SqlBridge
