import SqlBridge.Session.Statement

/-!
# Reading transcripts

What a session has done is read off the events that its transcript has gained.
Every answer in it is the engine's own, given in the state that the events
before have left.  A step passes when its outcome is the first failure that its
events show, and when it asks nothing more after that failure.
-/

set_option autoImplicit false

namespace SqlBridge

variable {σ α β : Type}

def failureOf : Except Failure α → Option Failure
  | .ok _ => none
  | .error failure => some failure

theorem failureOf_eq_some_iff {outcome : Except Failure α} {failure : Failure} :
    failureOf outcome = some failure ↔ outcome = .error failure := by
  cases outcome <;> simp [failureOf]

def Engine.failureRecord (engine : Engine σ) (state : σ) (handle : Handle) : ErrorRecord :=
  ErrorRecord.reconcile (engine.connectionError state) (some (engine.statementError state handle))

namespace Request

/-- The kinds of request, in the order in which an update makes them. -/
inductive Stage where
  | schema
  | prepare
  | bind
  | mode
  | run
  | columns
  | release
  | fetch
  deriving DecidableEq

def stage : Request → Stage
  | .columnInformation _ => .schema
  | .prepare _ _ _ => .prepare
  | .setFetchMode _ _ => .mode
  | .run _ _ => .run
  | .columnMeta _ _ => .columns
  | .bindColumn _ _ _ => .columns
  | .bindValue _ _ _ => .bind
  | .bindBlob _ _ _ => .bind
  | .releaseBlobs _ => .release
  | .fetchRow _ => .fetch
  | .fetchKeyPairs _ => .fetch

/-- The failure that an answer is.  The reason of a refused run is read off the
state in which the answer has left the engine. -/
def failure? (engine : Engine σ) (state : σ) :
    (request : Request) → request.Answer → Option Failure
  | .columnInformation _, answer => failureOf answer
  | .prepare _ _ _, answer => failureOf answer
  | .setFetchMode _ _, _ => none
  | .run handle _, succeeded =>
    if succeeded = true then none else some (.execution (engine.failureRecord state handle))
  | .columnMeta _ _, answer => failureOf answer
  | .bindColumn _ _ _, answer => failureOf answer
  | .bindValue _ _ _, answer => failureOf answer
  | .bindBlob _ _ _, answer => failureOf answer
  | .releaseBlobs _, _ => none
  | .fetchRow _, answer => failureOf answer
  | .fetchKeyPairs _, answer => failureOf answer

end Request

namespace Event

def request? : Event → Option Request
  | exchange request _ => some request
  | emitted _ => none

def next (engine : Engine σ) (state : σ) : Event → σ
  | exchange request _ => (engine.answer request state).2
  | emitted _ => state

def Genuine (engine : Engine σ) (state : σ) : Event → Prop
  | exchange request answer => answer = (engine.answer request state).1
  | emitted _ => True

def failure? (engine : Engine σ) (state : σ) : Event → Option Failure
  | exchange request answer => request.failure? engine (engine.answer request state).2 answer
  | emitted _ => none

end Event

namespace Transcript

def requests (events : List Event) : List Request :=
  events.filterMap Event.request?

def told (emissions : List Emission) : List Event :=
  emissions.map Event.emitted

def ofStage (stage : Request.Stage) (events : List Event) : List Request :=
  (requests events).filter fun request => request.stage = stage

variable (engine : Engine σ)

def stateAfter : σ → List Event → σ
  | state, [] => state
  | state, event :: rest => stateAfter (event.next engine state) rest

def Genuine : σ → List Event → Prop
  | _, [] => True
  | state, event :: rest => event.Genuine engine state ∧ Genuine (event.next engine state) rest

def firstFailure? : σ → List Event → Option Failure
  | _, [] => none
  | state, event :: rest =>
    (event.failure? engine state).or (firstFailure? (event.next engine state) rest)

def afterFailure : σ → List Event → List Event
  | _, [] => []
  | state, event :: rest =>
    if (event.failure? engine state).isSome then rest
    else afterFailure (event.next engine state) rest

/-! ## Events one after the other -/

@[simp] theorem requests_append (front back : List Event) :
    requests (front ++ back) = requests front ++ requests back := by
  simp [requests]

@[simp] theorem requests_nil : requests [] = [] := rfl

@[simp] theorem requests_exchange (request : Request) (answer : request.Answer)
    (rest : List Event) :
    requests (.exchange request answer :: rest) = request :: requests rest := rfl

theorem mem_requests {events : List Event} {request : Request} {answer : request.Answer}
    (happened : .exchange request answer ∈ events) : request ∈ requests events :=
  List.mem_filterMap.mpr ⟨_, happened, rfl⟩

theorem filter_stage_eq_nil (stage : Request.Stage) {asked : List Request}
    (others : ∀ request ∈ asked, request.stage ≠ stage) :
    asked.filter (fun request => request.stage = stage) = [] := by
  rw [List.filter_eq_nil_iff]
  intro request listed
  simp [others request listed]

theorem told_append (front back : List Emission) :
    told (front ++ back) = told front ++ told back :=
  List.map_append

@[simp] theorem requests_told (emissions : List Emission) : requests (told emissions) = [] := by
  induction emissions with
  | nil => rfl
  | cons emission rest ih => exact ih

theorem exchange_notMem_told (request : Request) (answer : request.Answer)
    (emissions : List Emission) : .exchange request answer ∉ told emissions := by
  intro happened
  obtain ⟨emission, _, same⟩ := List.mem_map.mp happened
  cases same

theorem stateAfter_append (state : σ) (front back : List Event) :
    stateAfter engine state (front ++ back) =
      stateAfter engine (stateAfter engine state front) back := by
  induction front generalizing state with
  | nil => rfl
  | cons event rest ih => exact ih (event.next engine state)

@[simp] theorem stateAfter_told (state : σ) (emissions : List Emission) :
    stateAfter engine state (told emissions) = state := by
  induction emissions with
  | nil => rfl
  | cons emission rest ih => exact ih

theorem genuine_append (state : σ) (front back : List Event) :
    Genuine engine state (front ++ back) ↔
      Genuine engine state front ∧ Genuine engine (stateAfter engine state front) back := by
  induction front generalizing state with
  | nil => simp [Genuine, stateAfter]
  | cons event rest ih =>
    simp only [List.cons_append, Genuine, stateAfter, ih, and_assoc]

theorem genuine_told (state : σ) (emissions : List Emission) :
    Genuine engine state (told emissions) := by
  induction emissions with
  | nil => trivial
  | cons emission rest ih => exact ⟨trivial, ih⟩

theorem firstFailure?_append (state : σ) (front back : List Event) :
    firstFailure? engine state (front ++ back) =
      (firstFailure? engine state front).or
        (firstFailure? engine (stateAfter engine state front) back) := by
  induction front generalizing state with
  | nil => rfl
  | cons event rest ih =>
    simp only [List.cons_append, firstFailure?, stateAfter, ih, Option.or_assoc]

@[simp] theorem firstFailure?_told (state : σ) (emissions : List Emission) :
    firstFailure? engine state (told emissions) = none := by
  induction emissions with
  | nil => rfl
  | cons emission rest ih => exact ih

theorem afterFailure_append_of_some {state : σ} {front : List Event} {failure : Failure}
    (failed : firstFailure? engine state front = some failure) (back : List Event) :
    afterFailure engine state (front ++ back) = afterFailure engine state front ++ back := by
  induction front generalizing state with
  | nil => simp [firstFailure?] at failed
  | cons event rest ih =>
    cases shown : event.failure? engine state with
    | some first => simp [afterFailure, shown]
    | none =>
      rw [firstFailure?, shown, Option.none_or] at failed
      simp [afterFailure, shown, ih failed]

theorem afterFailure_append_of_none {state : σ} {front : List Event}
    (fine : firstFailure? engine state front = none) (back : List Event) :
    afterFailure engine state (front ++ back) =
      afterFailure engine (stateAfter engine state front) back := by
  induction front generalizing state with
  | nil => rfl
  | cons event rest ih =>
    obtain ⟨shown, restFine⟩ := Option.or_eq_none_iff.mp fine
    simp [afterFailure, shown, stateAfter, ih restFine]

theorem afterFailure_of_none {state : σ} {events : List Event}
    (fine : firstFailure? engine state events = none) :
    afterFailure engine state events = [] := by
  have all := afterFailure_append_of_none engine fine []
  rwa [List.append_nil] at all

theorem exists_of_firstFailure? {state : σ} {events : List Event} {failure : Failure}
    (failed : firstFailure? engine state events = some failure) :
    ∃ front event, events = front ++ event :: afterFailure engine state events ∧
      event.failure? engine (stateAfter engine state front) = some failure := by
  induction events generalizing state with
  | nil => cases failed
  | cons event rest ih =>
    cases shown : event.failure? engine state with
    | some first =>
      rw [firstFailure?, shown, Option.some_or] at failed
      exact ⟨[], event, by simp [afterFailure, shown], shown.trans failed⟩
    | none =>
      rw [firstFailure?, shown, Option.none_or] at failed
      obtain ⟨front, last, split, shows⟩ := ih failed
      refine ⟨event :: front, last, ?_, shows⟩
      rw [afterFailure, shown, List.cons_append]
      exact congrArg (event :: ·) split

end Transcript

open Transcript

/-! ## What a step does to a session -/

namespace Session

def since (later session : Session σ) : List Event :=
  later.transcript.drop session.transcript.length

variable (engine : Engine σ)

def answered (session : Session σ) (request : Request) : Session σ :=
  session.exchanged request (engine.answer request session.state).1
    (engine.answer request session.state).2

/-- The later session comes out of the session by the given events, and the
engine has answered them. -/
structure Leads (session : Session σ) (events : List Event) (later : Session σ) : Prop where
  transcript : later.transcript = session.transcript ++ events
  state : later.state = stateAfter engine session.state events
  genuine : Genuine engine session.state events

/-- A step with this outcome has ended with the first failure among its events,
if there was one. -/
structure Passes (session : Session σ) (outcome : Except Failure α) (events : List Event)
    (later : Session σ) : Prop extends Leads engine session events later where
  failure : firstFailure? engine session.state events = failureOf outcome
  stops : requests (afterFailure engine session.state events) = []

namespace Leads

variable {engine : Engine σ} {session middle later : Session σ} {front back events : List Event}

theorem since_eq (leads : Leads engine session events later) : later.since session = events := by
  rw [since, leads.transcript, List.drop_left]

theorem refl (session : Session σ) : Leads engine session [] session :=
  ⟨by simp, rfl, trivial⟩

theorem trans (first : Leads engine session front middle)
    (second : Leads engine middle back later) : Leads engine session (front ++ back) later where
  transcript := by rw [second.transcript, first.transcript, List.append_assoc]
  state := by rw [second.state, first.state, stateAfter_append]
  genuine := by
    rw [genuine_append, ← first.state]
    exact ⟨first.genuine, second.genuine⟩

theorem ask (session : Session σ) (request : Request) :
    Leads engine session [.exchange request (engine.answer request session.state).1]
      (session.answered engine request) :=
  ⟨rfl, rfl, rfl, trivial⟩

theorem note (session : Session σ) (emissions : List Emission) :
    Leads engine session (told emissions) (session.note (told emissions)) :=
  ⟨rfl, (stateAfter_told engine session.state emissions).symm,
    genuine_told engine session.state emissions⟩

end Leads

/-- Logging an entry at most tells of it. -/
theorem leads_logged (entry : LogEntry) (session : Session σ) :
    ∃ emissions, Leads engine session (told emissions) (session.logged entry) := by
  unfold Session.logged
  split
  · exact ⟨[], .refl session⟩
  next logger attached =>
    have noted : Leads engine session _ _ := .note session (logger.log entry).1
    exact ⟨_, noted.transcript, noted.state, noted.genuine⟩

namespace Passes

variable {engine : Engine σ} {session middle later : Session σ} {front back events : List Event}

theorem pure (session : Session σ) (answer : α) :
    Passes engine session (.ok answer : Except Failure α) [] session where
  toLeads := .refl session
  failure := rfl
  stops := rfl

theorem of_leads_of_none (leads : Leads engine session events later)
    (fine : firstFailure? engine session.state events = none) (answer : α) :
    Passes engine session (.ok answer : Except Failure α) events later where
  toLeads := leads
  failure := fine
  stops := by rw [afterFailure_of_none engine fine, requests_nil]

theorem note (session : Session σ) (emissions : List Emission) (answer : α) :
    Passes engine session (.ok answer : Except Failure α) (told emissions)
      (session.note (told emissions)) :=
  of_leads_of_none (.note session emissions) (firstFailure?_told engine _ _) answer

/-- Asking passes with any outcome that fails just as the answer does. -/
theorem ask (session : Session σ) (request : Request) (outcome : Except Failure α)
    (same : failureOf outcome =
      request.failure? engine (engine.answer request session.state).2
        (engine.answer request session.state).1) :
    Passes engine session outcome [.exchange request (engine.answer request session.state).1]
      (session.answered engine request) where
  toLeads := .ask session request
  failure := by simp only [firstFailure?, Event.failure?, Option.or_none, same]
  stops := by simp only [afterFailure]; split <;> rfl

theorem andThen {answer : α} {outcome : Except Failure β}
    (first : Passes engine session (.ok answer : Except Failure α) front middle)
    (second : Passes engine middle outcome back later) :
    Passes engine session outcome (front ++ back) later where
  toLeads := first.toLeads.trans second.toLeads
  failure := by
    rw [firstFailure?_append, first.failure, ← first.state, second.failure]
    rfl
  stops := by
    rw [afterFailure_append_of_none engine first.failure, ← first.state, second.stops]

/-- After a failure only notices may follow. -/
theorem andNote {failure : Failure}
    (first : Passes engine session (.error failure : Except Failure α) front middle)
    (emissions : List Emission) :
    Passes engine session (.error failure : Except Failure β) (front ++ told emissions)
      (middle.note (told emissions)) where
  toLeads := first.toLeads.trans (.note middle emissions)
  failure := by
    rw [firstFailure?_append, first.failure, firstFailure?_told, Option.or_none]
    rfl
  stops := by
    rw [afterFailure_append_of_some engine first.failure, requests_append, first.stops,
      requests_told, List.append_nil]

theorem of_same {outcome : Except Failure α} {other : Session σ}
    (passes : Passes engine session outcome events later)
    (transcript : other.transcript = later.transcript) (state : other.state = later.state) :
    Passes engine session outcome events other where
  transcript := by rw [transcript, passes.transcript]
  state := by rw [state, passes.state]
  genuine := passes.genuine
  failure := passes.failure
  stops := passes.stops

theorem map {outcome : Except Failure α} (passes : Passes engine session outcome events later)
    (change : α → β) : Passes engine session (outcome.map change) events later where
  toLeads := passes.toLeads
  failure := by
    rw [passes.failure]
    cases outcome <;> rfl
  stops := passes.stops

theorem error_cast {failure : Failure}
    (passes : Passes engine session (.error failure : Except Failure α) events later) :
    Passes engine session (.error failure : Except Failure β) events later :=
  ⟨passes.toLeads, passes.failure, passes.stops⟩

end Passes

@[simp] theorem run_reading (view : σ → α) (session : Session σ) :
    (reading view).run session = (.ok (view session.state), session) := rfl

theorem run_notifyAll (notices : List Notice) (session : Session σ) :
    (notifyAll notices).run session =
      (.ok (), session.note (told (notices.map Emission.reported))) := by
  rw [told, List.map_map]
  rfl

def Asks (allowed : Request → Prop) (step : Step (Session σ) α) : Prop :=
  ∀ session, ∃ events, Passes engine session (step.run session).1 events (step.run session).2 ∧
    ∀ request ∈ requests events, allowed request

namespace Asks

variable {engine : Engine σ} {allowed : Request → Prop}

theorem pure (answer : α) : Asks engine allowed (Pure.pure answer : Step (Session σ) α) :=
  fun session => ⟨[], .pure session answer, by simp⟩

theorem reading (view : Session σ → α) : Asks engine allowed (Step.reading view) :=
  fun session => ⟨[], .pure session (view session), by simp⟩

theorem notifyAll (notices : List Notice) : Asks engine allowed (notifyAll notices) := by
  intro session
  refine ⟨told (notices.map Emission.reported), ?_, by simp⟩
  rw [run_notifyAll]
  exact .note session _ ()

theorem bind {step : Step (Session σ) α} {next : α → Step (Session σ) β}
    (first : Asks engine allowed step) (second : ∀ answer, Asks engine allowed (next answer)) :
    Asks engine allowed (step >>= next) := by
  intro session
  obtain ⟨front, firstPasses, firstAsks⟩ := first session
  rw [Step.run_bind]
  rcases ran : step.run session with ⟨failure | answer, middle⟩
  · rw [ran] at firstPasses
    exact ⟨front, firstPasses.error_cast, firstAsks⟩
  · rw [ran] at firstPasses
    obtain ⟨back, secondPasses, secondAsks⟩ := second answer middle
    refine ⟨front ++ back, firstPasses.andThen secondPasses, ?_⟩
    intro request asked
    rw [requests_append, List.mem_append] at asked
    exact asked.elim (firstAsks request) (secondAsks request)

end Asks

end Session

end SqlBridge
