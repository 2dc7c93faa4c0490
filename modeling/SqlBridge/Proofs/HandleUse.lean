import SqlBridge.Proofs.StatementRun

/-!
# Steps that keep to a handle

A step keeps to a handle when all that it asks for is about that handle and it
prepares no other.  A run does so, with all that follows it, and so does a walk
through the rows that are left.
-/

set_option autoImplicit false

namespace SqlBridge

open Transcript

variable {σ α β : Type}

def Request.On (handle : Handle) : Request → Prop
  | .columnInformation _ => False
  | .prepare _ _ _ => False
  | .setFetchMode other _ => other = handle
  | .run other _ => other = handle
  | .columnMeta other _ => other = handle
  | .bindColumn other _ _ => other = handle
  | .bindValue other _ _ => other = handle
  | .bindBlob other _ _ => other = handle
  | .releaseBlobs other => other = handle
  | .fetchRow other => other = handle
  | .fetchKeyPairs other => other = handle

namespace Session

/-- The way from a session to a later one stays on one handle and numbers no other. -/
structure KeepsTo (engine : Engine σ) (handle : Handle) (session : Session σ)
    (events : List Event) (later : Session σ) : Prop
    extends Leads engine session events later where
  numbered : later.prepared = session.prepared
  on : ∀ request ∈ requests events, request.On handle

namespace KeepsTo

variable {engine : Engine σ} {handle : Handle} {session middle later : Session σ}
  {front back : List Event}

theorem refl (session : Session σ) : KeepsTo engine handle session [] session where
  toLeads := .refl session
  numbered := rfl
  on := by simp

theorem trans (first : KeepsTo engine handle session front middle)
    (second : KeepsTo engine handle middle back later) :
    KeepsTo engine handle session (front ++ back) later where
  toLeads := first.toLeads.trans second.toLeads
  numbered := second.numbered.trans first.numbered
  on := by
    intro request asked
    rw [requests_append, List.mem_append] at asked
    exact asked.elim (first.on request) (second.on request)

theorem ask (session : Session σ) (request : Request) (on : request.On handle) :
    KeepsTo engine handle session
      [.exchange request (engine.answer request session.state).1]
      (session.answered engine request) where
  toLeads := .ask session request
  numbered := rfl
  on := by
    intro other asked
    rw [List.mem_singleton.mp asked]
    exact on

theorem note (session : Session σ) (emissions : List Emission) :
    KeepsTo engine handle session (told emissions) (session.note (told emissions)) where
  toLeads := .note session emissions
  numbered := rfl
  on := by simp

theorem of_same {other : Session σ} (kept : KeepsTo engine handle session front later)
    (transcript : other.transcript = later.transcript) (state : other.state = later.state)
    (prepared : other.prepared = later.prepared) :
    KeepsTo engine handle session front other where
  transcript := by rw [transcript, kept.transcript]
  state := by rw [state, kept.state]
  genuine := kept.genuine
  numbered := by rw [prepared, kept.numbered]
  on := kept.on

end KeepsTo

def Confined (engine : Engine σ) (handle : Handle) (step : Step (Session σ) α) : Prop :=
  ∀ session, ∃ events, KeepsTo engine handle session events (step.run session).2

namespace Confined

variable {engine : Engine σ} {handle : Handle}

theorem ofExcept (outcome : Except Failure α) :
    Confined engine handle (Step.ofExcept outcome : Step (Session σ) α) :=
  fun session => ⟨[], .refl session⟩

theorem pure (answer : α) : Confined engine handle (Pure.pure answer : Step (Session σ) α) :=
  fun session => ⟨[], .refl session⟩

theorem reading (view : Session σ → α) : Confined engine handle (Step.reading view) :=
  fun session => ⟨[], .refl session⟩

theorem notifyAll (notices : List Notice) :
    Confined engine handle (Session.notifyAll (σ := σ) notices) := by
  intro session
  rw [run_notifyAll]
  exact ⟨_, .note session (notices.map Emission.reported)⟩

theorem bind {step : Step (Session σ) α} {next : α → Step (Session σ) β}
    (first : Confined engine handle step)
    (second : ∀ answer, Confined engine handle (next answer)) :
    Confined engine handle (step >>= next) := by
  intro session
  obtain ⟨front, kept⟩ := first session
  rw [Step.run_bind]
  rcases ran : step.run session with ⟨failure | answer, middle⟩
  · rw [ran] at kept
    exact ⟨front, kept⟩
  · rw [ran] at kept
    obtain ⟨back, last⟩ := second answer middle
    exact ⟨front ++ back, kept.trans last⟩

theorem ask {request : Request} (on : request.On handle) :
    Confined engine handle (Session.ask engine request) :=
  fun session => ⟨_, .ask session request on⟩

end Confined

theorem compositional_confined (engine : Engine σ) (handle : Handle) :
    Compositional fun step => Confined engine handle step where
  pure := .pure
  reading := fun view => .reading fun session => view session.state
  notifyAll := .notifyAll
  bind := .bind

variable (engine : Engine σ)

theorem confined_logRun (handle : Handle) (arguments : Option ParamList) (started : Nat) :
    Confined engine handle (Statement.logRun engine handle arguments started) := by
  intro session
  simp only [Statement.logRun, Step.run_change, logged]
  cases session.logger with
  | none => exact ⟨[], .refl session⟩
  | some logger =>
    exact ⟨told (logger.log _).1, .of_same (.note session _) rfl rfl rfl⟩

theorem confined_runHandle (handle : Handle) (arguments : Option ParamList) :
    Confined engine handle (Statement.runHandle engine handle arguments) := by
  apply Confined.bind (.reading _)
  intro started
  have asks : Confined engine handle (Session.run engine handle arguments) := .ask rfl
  apply asks.bind
  intro succeeded
  split
  · apply Confined.bind
    · apply (compositional_confined engine handle).bindResultColumns
      · intro index
        exact .bind (.ask rfl) .ofExcept
      · intro index buffer
        exact .bind (.ask rfl) .ofExcept
    intro columns
    apply Confined.bind (confined_logRun engine handle arguments started)
    intro _
    exact .pure columns
  · apply Confined.bind
    · intro session
      obtain ⟨emissions, ran⟩ := Statement.run_failureRecord engine handle session
      rw [ran]
      exact ⟨_, .note session emissions⟩
    intro record
    exact .ofExcept _

/-! ## Rows -/

inductive Walk (handle : Handle) (take : β → List Value → Except Failure β) :
    β → List Event → Except Failure β → Prop where
  | ended (total : β) : Walk handle take total [.exchange (.fetchRow handle) (.ok none)] (.ok total)
  | unfetched (total : β) (failure : Failure) :
      Walk handle take total [.exchange (.fetchRow handle) (.error failure)] (.error failure)
  | refused {total : β} {row : List Value} {failure : Failure}
      (refuses : take total row = .error failure) :
      Walk handle take total [.exchange (.fetchRow handle) (.ok (some row))] (.error failure)
  | taken {total more : β} {row : List Value} {events : List Event} {outcome : Except Failure β}
      (takes : take total row = .ok more) (rest : Walk handle take more events outcome) :
      Walk handle take total (.exchange (.fetchRow handle) (.ok (some row)) :: events) outcome

theorem foldRows_walk (handle : Handle) (take : β → List Value → Except Failure β) (total : β)
    (session : Session σ) :
    ∃ events, KeepsTo engine handle session events
        ((foldRows engine handle take total).run session).2 ∧
      Walk handle take total events ((foldRows engine handle take total).run session).1 := by
  have asked : ∀ (session : Session σ) answer state,
      engine.answer (.fetchRow handle) session.state = (answer, state) →
        KeepsTo engine handle session [.exchange (.fetchRow handle) answer]
          (session.exchanged (.fetchRow handle) answer state) := by
    intro session answer state answered
    have kept : KeepsTo engine handle session _ _ := .ask session (.fetchRow handle) rfl
    rw [Session.answered, answered] at kept
    exact kept
  unfold foldRows Step.run
  fun_induction foldRowsFrom engine handle take total session with
  | case1 total session failure state answered =>
    exact ⟨_, asked session _ state answered, .unfetched total failure⟩
  | case2 total session state answered =>
    exact ⟨_, asked session _ state answered, .ended total⟩
  | case3 total session row state answered later failure refuses =>
    exact ⟨_, asked session _ state answered, .refused refuses⟩
  | case4 total session row state answered later more takes ih =>
    obtain ⟨events, kept, rest⟩ := ih
    exact ⟨_, (asked session _ state answered).trans kept, .taken takes rest⟩

theorem confined_foldRows (handle : Handle) (take : β → List Value → Except Failure β) (total : β) :
    Confined engine handle (foldRows engine handle take total) := by
  intro session
  obtain ⟨events, kept, _⟩ := foldRows_walk engine handle take total session
  exact ⟨events, kept⟩

end Session

end SqlBridge
