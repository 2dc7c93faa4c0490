import SqlBridge.Proofs.StatementCall

/-!
# The way of a step

A step leads from one state over some events to another.  Where a relation of two
states and the events between them holds of standing still and of one way after
another, it holds along a sequence of steps as soon as it holds along each.  So it
holds along every call that is no execution as soon as it holds of the few things
that these calls are made of.
-/

set_option autoImplicit false

namespace SqlBridge

variable {ρ σ α β : Type}

structure Chains (R : ρ → List Event → ρ → Prop) : Prop where
  refl : ∀ state, R state [] state
  trans : ∀ {start middle stop front back},
    R start front middle → R middle back stop → R start (front ++ back) stop

def Beside (R : σ → List Event → σ → Prop) (start : ρ × σ) (events : List Event)
    (stop : ρ × σ) : Prop :=
  R start.2 events stop.2

theorem Chains.beside {R : σ → List Event → σ → Prop} (chains : Chains R) :
    Chains (Beside R : ρ × σ → List Event → ρ × σ → Prop) where
  refl state := chains.refl state.2
  trans := chains.trans

def Within (R : ρ × σ → List Event → ρ × σ → Prop) (own : ρ) (start : σ) (events : List Event)
    (stop : σ) : Prop :=
  R (own, start) events (own, stop)

theorem Chains.within {R : ρ × σ → List Event → ρ × σ → Prop} (chains : Chains R) (own : ρ) :
    Chains (Within R own) where
  refl state := chains.refl (own, state)
  trans := chains.trans

namespace Step

/-- The step goes a way of the relation from this state. -/
def Along (R : ρ → List Event → ρ → Prop) (step : Step ρ α) (start : ρ) : Prop :=
  ∃ events, R start events (step.run start).2

namespace Along

section

variable {R : ρ → List Event → ρ → Prop} {start : ρ}

theorem ofExcept (chains : Chains R) (outcome : Except Failure α) :
    Along R (Step.ofExcept outcome) start :=
  ⟨[], chains.refl start⟩

theorem pure (chains : Chains R) (answer : α) : Along R (Pure.pure answer) start :=
  ⟨[], chains.refl start⟩

theorem reading (chains : Chains R) (view : ρ → α) : Along R (Step.reading view) start :=
  ⟨[], chains.refl start⟩

theorem bind (chains : Chains R) {step : Step ρ α} {next : α → Step ρ β}
    (first : Along R step start)
    (second : ∀ answer stop, step.run start = (.ok answer, stop) → Along R (next answer) stop) :
    Along R (step >>= next) start := by
  obtain ⟨front, way⟩ := first
  unfold Along
  rw [run_bind]
  rcases ran : step.run start with ⟨failure | answer, middle⟩
  · rw [ran] at way
    exact ⟨front, way⟩
  · rw [ran] at way
    obtain ⟨back, rest⟩ := second answer middle ran
    exact ⟨front ++ back, chains.trans way rest⟩

end

/-! ## Parts of a pair -/

section

variable {R : ρ × σ → List Event → ρ × σ → Prop} {start : ρ × σ}

/-- A step may go on with what is its own as it is. -/
theorem own (chains : Chains R) {next : ρ → Step (ρ × σ) β}
    (second : Along R (next start.1) start) : Along R (Step.own >>= next) start := by
  apply bind chains (.reading chains Prod.fst)
  intro answer stop read
  cases read
  exact second

theorem lift {step : Step σ α} (along : Along (Within R start.1) step start.2) :
    Along R (liftM step : Step (ρ × σ) α) start :=
  along

end

section

variable {R : σ → List Event → σ → Prop}

theorem changeOwn (chains : Chains R) (update : ρ → ρ) {start : ρ × σ} :
    Along (Beside R) (Step.changeOwn update : Step (ρ × σ) Unit) start :=
  ⟨[], chains.refl start.2⟩

theorem beside {own : ρ} {step : Step (ρ × σ) α} {state : σ}
    (along : Along (Beside R) step (own, state)) : Along R (Step.beside own step) state :=
  along

end

end Along

end Step

/-! ## Asking and walking through rows -/

namespace Session

variable (engine : Engine σ) {R : Session σ → List Event → Session σ → Prop} (chains : Chains R)

include chains

/-- A request is asked, and what is read from the answer is the outcome. -/
theorem along_exchange {request : Request} {session : Session σ}
    (asks : R session [.exchange request (engine.answer request session.state).1]
      (session.answered engine request))
    (read : request.Answer → Except Failure α) :
    Step.Along R (do Step.ofExcept (read (← ask engine request))) session := by
  apply Step.Along.bind chains ⟨_, asks⟩
  intro answer later _
  exact .ofExcept chains (read answer)

theorem along_foldRows {handle : Handle}
    (asks : ∀ session, R session
      [.exchange (.fetchRow handle) (engine.answer (.fetchRow handle) session.state).1]
      (session.answered engine (.fetchRow handle)))
    (take : β → List Value → Except Failure β) (total : β) (session : Session σ) :
    Step.Along R (foldRows engine handle take total) session := by
  have asked : ∀ (session : Session σ) answer state,
      engine.answer (.fetchRow handle) session.state = (answer, state) →
        R session [.exchange (.fetchRow handle) answer]
          (session.exchanged (.fetchRow handle) answer state) := by
    intro session answer state answered
    have way := asks session
    rw [Session.answered, answered] at way
    exact way
  unfold Step.Along foldRows Step.run
  fun_induction foldRowsFrom engine handle take total session with
  | case1 total session failure state answered => exact ⟨_, asked session _ state answered⟩
  | case2 total session state answered => exact ⟨_, asked session _ state answered⟩
  | case3 total session row state answered later failure refuses =>
    exact ⟨_, asked session _ state answered⟩
  | case4 total session row state answered later more takes ih =>
    obtain ⟨events, rest⟩ := ih
    exact ⟨_, chains.trans (asked session _ state answered) rest⟩

end Session

/-! ## Calls -/

namespace Statement

/-- The relation holds of all that calls are made of, executions left aside: marking a statement,
making its pending replacement, changing its mode, and asking for a binding or for rows. -/
structure Admits (engine : Engine σ)
    (R : Statement × Session σ → List Event → Statement × Session σ → Prop) : Prop
    extends Chains R where
  mark : ∀ start, R start [] (start.1.requireInsecure, start.2)
  settle : ∀ start, Step.Along R (settlePrepare engine) start
  setMode : ∀ mode start, Step.Along R (setFetchMode engine mode) start
  ask : ∀ request, request.stage = .bind ∨ request.stage = .fetch → ∀ statement session,
    R (statement, session) [.exchange request (engine.answer request session.state).1]
      (statement, session.answered engine request)

namespace Admits

variable {engine : Engine σ} {R : Statement × Session σ → List Event → Statement × Session σ → Prop}
  (admits : Admits engine R)

include admits

theorem exchange {request : Request} (kind : request.stage = .bind ∨ request.stage = .fetch)
    (read : request.Answer → Except Failure α) (statement : Statement) (session : Session σ) :
    Step.Along (Within R statement)
      (do Step.ofExcept (read (← Session.ask engine request))) session :=
  Session.along_exchange engine (admits.toChains.within statement)
    (admits.ask request kind statement session) read

theorem foldRows (handle : Handle) (take : β → List Value → Except Failure β) (total : β)
    (statement : Statement) (session : Session σ) :
    Step.Along (Within R statement) (Session.foldRows engine handle take total) session :=
  Session.along_foldRows engine (admits.toChains.within statement)
    (admits.ask (.fetchRow handle) (.inr rfl) statement) take total session

theorem settleUnless (alreadyPrepared : Bool) (start : Statement × Session σ) :
    Step.Along R (settleUnless engine alreadyPrepared) start := by
  unfold Statement.settleUnless
  split
  · exact .pure admits.toChains ()
  · exact admits.settle start

theorem applyFetchMode (mode : Option FetchMode) (start : Statement × Session σ) :
    Step.Along R (applyFetchMode engine mode) start := by
  cases mode with
  | none => exact .pure admits.toChains ()
  | some mode => exact admits.setMode mode start

theorem fetchAllKeyed (keyIndex valueIndex : Nat) (start : Statement × Session σ) :
    Step.Along R (fetchAllKeyed engine keyIndex valueIndex) start := by
  have chains := admits.toChains
  apply Step.Along.own chains
  apply Step.Along.bind chains (.lift (.reading (chains.within start.1) _))
  intro count counted _
  split
  · apply Step.Along.bind chains (admits.setMode .keyPair counted)
    intro _ moded _
    have fetches : Step.Along (Within R moded.1)
        (Session.fetchKeyPairs engine start.1.handle) moded.2 :=
      admits.exchange (.inr rfl) id moded.1 moded.2
    apply Step.Along.bind chains (.lift fetches)
    intro pairs _ _
    exact .pure chains _
  · apply Step.Along.bind chains (admits.setMode .num counted)
    intro _ moded _
    exact .lift (admits.foldRows _ _ _ moded.1 moded.2)

theorem looking {step : Statement → Step (Session σ) α} {start : Statement × Session σ}
    (along : Step.Along (Within R start.1) (step start.1) start.2) :
    Step.Along R (looking step) start :=
  .own admits.toChains (.lift along)

theorem step {call : Call} (other : ∀ arguments options, call ≠ .execute arguments options)
    (start : Statement × Session σ) : Step.Along R (call.step engine) start := by
  have chains := admits.toChains
  have within := chains.within start.1
  cases call with
  | execute arguments options => exact absurd rfl (other arguments options)
  | requireInsecure => exact ⟨[], admits.mark start⟩
  | bindingHandle =>
    apply Step.Along.bind chains (admits.settle start)
    intro _ settled _
    exact .own chains (.pure chains settled.1.handle)
  | bindValue placeholder value =>
    rw [Call.step, bindValue_eq]
    apply Step.Along.bind chains (admits.settle start)
    intro _ settled _
    exact admits.looking (admits.exchange (.inl rfl) id settled.1 settled.2)
  | setFetchMode mode => exact admits.setMode mode start
  | fetch =>
    have fetches : Step.Along (Within R start.1)
        (Session.fetchRow engine start.1.handle) start.2 :=
      admits.exchange (.inr rfl) id start.1 start.2
    apply admits.looking
    apply Step.Along.bind within fetches
    intro row _ _
    exact .pure within _
  | fetchAll =>
    apply admits.looking
    apply Step.Along.bind within (admits.foldRows _ _ _ start.1 start.2)
    intro rows _ _
    exact .pure within _
  | fetchColumn index =>
    apply admits.looking
    apply Step.Along.bind within (admits.foldRows _ _ _ start.1 start.2)
    intro values _ _
    exact .pure within _
  | fetchAllKeyed keyIndex valueIndex => exact admits.fetchAllKeyed keyIndex valueIndex start

end Admits

end Statement

end SqlBridge
