import SqlBridge.Session.Step
import SqlBridge.Session.Engine
import SqlBridge.Log.Logger

/-!
# Sessions

A session is a connection in use: the state of its engine, its logger, and the
transcript of everything that went out, in order.  The transcript holds each
request with its answer, the entries that loggers recorded, and the notices.
-/

set_option autoImplicit false

namespace SqlBridge

inductive Event where
  | exchange (request : Request) (answer : request.Answer)
  | emitted (emission : Emission)

structure Session (σ : Type) where
  state : σ
  logger : Option Logger := none
  /-- The attempts to prepare a statement, which number the handles. -/
  prepared : Nat := 0
  transcript : List Event := []

namespace Session

variable {σ : Type}

def note (events : List Event) (session : Session σ) : Session σ :=
  { session with transcript := session.transcript ++ events }

def notifyAll (notices : List Notice) : Step (Session σ) Unit :=
  Step.change (note (notices.map fun notice => .emitted (.reported notice)))

def notify (notice : Notice) : Step (Session σ) Unit :=
  notifyAll [notice]

/-- A session after the given entry has passed its logger, if it has one. -/
def logged (entry : LogEntry) (session : Session σ) : Session σ :=
  match session.logger with
  | none => session
  | some logger =>
    let (emissions, after) := logger.log entry
    { session.note (emissions.map Event.emitted) with logger := some after }

/-- A session after an exchange that has left the engine in the given state. -/
def exchanged (session : Session σ) (request : Request) (answer : request.Answer) (state : σ) :
    Session σ :=
  { session.note [.exchange request answer] with state := state }

variable (engine : Engine σ)

/-- Sends a request to the engine. -/
def ask (request : Request) : Step (Session σ) request.Answer := fun session =>
  let (answer, state) := engine.answer request session.state
  (.ok answer, session.exchanged request answer state)

def columnInformation (table : String) : Step (Session σ) ColumnInformation := do
  Step.ofExcept (← ask engine (.columnInformation table))

/-- Prepares a statement under the next free number, which is used up even if
the engine refuses. -/
def prepare (sql : String) (options : PrepareOptions) : Step (Session σ) Handle := do
  let handle ← Step.reading fun session => (⟨session.prepared⟩ : Handle)
  Step.change fun session => { session with prepared := session.prepared + 1 }
  Step.ofExcept (← ask engine (.prepare handle sql options))
  return handle

def setFetchMode (handle : Handle) (mode : FetchMode) : Step (Session σ) Unit :=
  ask engine (.setFetchMode handle mode)

def run (handle : Handle) (arguments : Option ParamList) : Step (Session σ) Bool :=
  ask engine (.run handle arguments)

def columnMeta (handle : Handle) (index : Nat) : Step (Session σ) ColumnMeta := do
  Step.ofExcept (← ask engine (.columnMeta handle index))

def bindColumn (handle : Handle) (index : Nat) (buffer : OutputBuffer) :
    Step (Session σ) Unit := do
  Step.ofExcept (← ask engine (.bindColumn handle index buffer))

def bindValue (handle : Handle) (placeholder : String) (value : Value) :
    Step (Session σ) Unit := do
  Step.ofExcept (← ask engine (.bindValue handle placeholder value))

def bindBlob (handle : Handle) (placeholder : String) (blob : ByteArray) :
    Step (Session σ) Unit := do
  Step.ofExcept (← ask engine (.bindBlob handle placeholder blob))

def releaseBlobs (handle : Handle) : Step (Session σ) Unit :=
  ask engine (.releaseBlobs handle)

def fetchRow (handle : Handle) : Step (Session σ) (Option (List Value)) := do
  Step.ofExcept (← ask engine (.fetchRow handle))

def fetchKeyPairs (handle : Handle) : Step (Session σ) (List (Value × Value)) := do
  Step.ofExcept (← ask engine (.fetchKeyPairs handle))

/-- Something that can be read off the engine without asking it. -/
def reading {α : Type} (view : σ → α) : Step (Session σ) α :=
  Step.reading fun session => view session.state

/-- Runs through the rows that are left, from an initial value on.  It stops at
the first row that the engine cannot fetch or that `take` refuses; that row is
used up. -/
def foldRowsFrom {β : Type} (handle : Handle) (take : β → List Value → Except Failure β)
    (total : β) (session : Session σ) : Except Failure β × Session σ :=
  match _answered : engine.answer (.fetchRow handle) session.state with
  | (.error failure, state) =>
    (.error failure, session.exchanged (.fetchRow handle) (.error failure) state)
  | (.ok none, state) =>
    (.ok total, session.exchanged (.fetchRow handle) (.ok none) state)
  | (.ok (some row), state) =>
    let later := session.exchanged (.fetchRow handle) (.ok (some row)) state
    match take total row with
    | .error failure => (.error failure, later)
    | .ok more => foldRowsFrom handle take more later
termination_by engine.rowsLeft session.state handle
decreasing_by
  have shrinks := engine.fetchRow_lt handle session.state row
  rw [_answered] at shrinks
  exact shrinks rfl

def foldRows {β : Type} (handle : Handle) (take : β → List Value → Except Failure β) (total : β) :
    Step (Session σ) β :=
  foldRowsFrom engine handle take total

end Session

end SqlBridge
