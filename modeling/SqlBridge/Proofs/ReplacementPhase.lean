import SqlBridge.Proofs.HandleSql
import SqlBridge.Proofs.StatementCall

/-!
# How far a replacement has come

A statement that is to be sent as it is written gets a handle prepared insecurely
in place of its own.  The first handle may be there for good, may be waiting to
be replaced, or has been replaced once; each call leads from one of these phases
to one of them, and so does any number of calls.
-/

set_option autoImplicit false

namespace SqlBridge

open Transcript

variable {σ : Type}

structure Preparation where
  handle : Handle
  sql : String
  options : PrepareOptions
  deriving DecidableEq

def Event.preparation? : Event → Option Preparation
  | .exchange (.prepare handle sql options) (.ok _) => some ⟨handle, sql, options⟩
  | _ => none

namespace Transcript

def preparations (events : List Event) : List Preparation :=
  events.filterMap Event.preparation?

@[simp] theorem preparations_append (front back : List Event) :
    preparations (front ++ back) = preparations front ++ preparations back :=
  List.filterMap_append

@[simp] theorem preparations_told (emissions : List Emission) :
    preparations (told emissions) = [] := by
  induction emissions with
  | nil => rfl
  | cons emission rest ih => exact ih

theorem preparations_of_on {handle : Handle} {events : List Event}
    (on : ∀ request ∈ requests events, request.On handle) : preparations events = [] := by
  rw [preparations, List.filterMap_eq_nil_iff]
  intro event happened
  cases event with
  | emitted emission => rfl
  | exchange request answer =>
    have asked := on request (mem_requests happened)
    cases request with
    | prepare other sql options => exact asked.elim
    | _ => rfl

end Transcript

namespace Statement

/-! ## Phases -/

/-- How far the replacement of the first handle has come, and what has been prepared by then. -/
inductive Phase (first : Preparation) : Statement → List Preparation → Prop where
  | original {statement : Statement} (handle : statement.handle = first.handle)
      (prepareOptions : statement.prepareOptions = first.options)
      (idle : statement.needsPrepare = false) : Phase first statement [first]
  | pending {statement : Statement} (handle : statement.handle = first.handle)
      (prepareOptions : statement.prepareOptions = .insecure)
      (pending : statement.needsPrepare = true) (secure : first.options.isInsecure = false) :
      Phase first statement [first]
  | replaced {statement : Statement} (fresh : first.handle ≠ statement.handle)
      (prepareOptions : statement.prepareOptions = .insecure)
      (idle : statement.needsPrepare = false) :
      Phase first statement [first, ⟨statement.handle, first.sql, .insecure⟩]

namespace Phase

variable {first : Preparation} {statement other : Statement} {prepared : List Preparation}

theorem of_same (phase : Phase first statement prepared) (handle : other.handle = statement.handle)
    (prepareOptions : other.prepareOptions = statement.prepareOptions)
    (needsPrepare : other.needsPrepare = statement.needsPrepare) : Phase first other prepared := by
  cases phase with
  | original sameHandle sameOptions idle =>
    exact .original (handle.trans sameHandle) (prepareOptions.trans sameOptions)
      (needsPrepare.trans idle)
  | pending sameHandle insecure waits secure =>
    exact .pending (handle.trans sameHandle) (prepareOptions.trans insecure)
      (needsPrepare.trans waits) secure
  | replaced fresh insecure idle =>
    rw [← handle] at fresh ⊢
    exact .replaced fresh (prepareOptions.trans insecure) (needsPrepare.trans idle)

/-- A mark has an effect only on the first handle, and only if that is not insecure. -/
theorem mark (phase : Phase first statement prepared) :
    Phase first statement.requireInsecure prepared := by
  unfold requireInsecure
  split
  · exact phase
  · rename_i marks
    cases phase with
    | original sameHandle sameOptions idle =>
      rw [sameOptions, Bool.not_eq_true] at marks
      exact .pending sameHandle rfl rfl marks
    | pending sameHandle insecure waits secure =>
      rw [insecure] at marks
      exact absurd rfl marks
    | replaced fresh insecure idle =>
      rw [insecure] at marks
      exact absurd rfl marks

theorem of_pending (phase : Phase first statement prepared)
    (waits : statement.needsPrepare = true) :
    statement.handle = first.handle ∧ statement.prepareOptions = .insecure ∧
      first.options.isInsecure = false ∧ prepared = [first] := by
  cases phase with
  | original handle prepareOptions idle => simp [idle] at waits
  | pending handle prepareOptions waits secure => exact ⟨handle, prepareOptions, secure, rfl⟩
  | replaced fresh prepareOptions idle => simp [idle] at waits

theorem once (phase : Phase first statement prepared) :
    ∃ later, prepared = first :: later ∧ later.length ≤ 1 ∧
      ∀ preparation ∈ later, preparation.sql = first.sql ∧ preparation.options = .insecure := by
  cases phase with
  | original => exact ⟨[], rfl, Nat.zero_le 1, by simp⟩
  | pending => exact ⟨[], rfl, Nat.zero_le 1, by simp⟩
  | replaced => exact ⟨_, rfl, Nat.le_refl 1, by simp⟩

theorem distinct (phase : Phase first statement prepared) :
    (prepared.map Preparation.handle).Nodup := by
  cases phase with
  | original => simp
  | pending => simp
  | replaced fresh => simpa using fresh

theorem of_idle (phase : Phase first statement prepared)
    (idle : statement.needsPrepare = false) :
    (⟨statement.handle, first.sql, statement.prepareOptions⟩ : Preparation) ∈ prepared := by
  cases phase with
  | original handle prepareOptions idle =>
    rw [handle, prepareOptions]
    exact List.mem_singleton_self first
  | pending handle prepareOptions waits secure => simp [waits] at idle
  | replaced fresh prepareOptions idle =>
    rw [prepareOptions]
    exact List.mem_cons_of_mem first (List.mem_singleton_self _)

end Phase

/-! ## The invariant -/

variable (engine : Engine σ) (first : Preparation)

def Attempts (events : List Event) : Prop :=
  ∀ handle text options, .prepare handle text options ∈ requests events →
    first.handle ≠ handle ∧ text = first.sql ∧ options = .insecure

def firstPreparation : Event :=
  .exchange (.prepare first.handle first.sql first.options) (.ok ())

structure Standing (session : Session σ) (events : List Event) (stop : Statement × Session σ) : Prop
    extends Session.Leads engine session (firstPreparation first :: events) stop.2 where
  phase : Phase first stop.1 (first :: preparations events)
  numbered : first.handle.number < stop.2.prepared
  attempts : Attempts first events

variable {engine} {first}

theorem Attempts.append {front back : List Event} (before : Attempts first front)
    (after : Attempts first back) : Attempts first (front ++ back) := by
  intro handle text options asked
  rw [requests_append, List.mem_append] at asked
  exact asked.elim (before handle text options) (after handle text options)

theorem Attempts.of_on {handle : Handle} {events : List Event}
    (on : ∀ request ∈ requests events, request.On handle) : Attempts first events :=
  fun _ _ _ asked => (on _ asked).elim

namespace Standing

variable {session : Session σ} {events : List Event} {state stop : Statement × Session σ}

theorem mark (standing : Standing engine first session events state) :
    Standing engine first session events (state.1.requireInsecure, state.2) :=
  ⟨standing.toLeads, standing.phase.mark, standing.numbered, standing.attempts⟩

theorem retain {back : List Event} (standing : Standing engine first session events state)
    (retains : Retains engine state back stop) :
    Standing engine first session (events ++ back) stop where
  toLeads := standing.toLeads.trans retains.toLeads
  phase := by
    rw [preparations_append, preparations_of_on retains.on, List.append_nil]
    exact standing.phase.of_same retains.handle retains.prepareOptions retains.needsPrepare
  numbered := by
    rw [retains.numbered]
    exact standing.numbered
  attempts := standing.attempts.append (.of_on retains.on)

/-- As long as the first handle is there, its SQL is what it was prepared from. -/
theorem sql_eq (keeps : engine.KeepsSql) (standing : Standing engine first session events state) :
    engine.sql state.2.state first.handle = first.sql := by
  rw [standing.state]
  apply keeps _ _ _ first.options
  · exact standing.genuine.1.symm
  · intro text options again
    exact (standing.attempts _ _ _ again).1 rfl

/-- What a call does that settles while a replacement is pending begins with the attempt to
prepare the first handle's SQL anew. -/
theorem preparing_eq (keeps : engine.KeepsSql)
    (standing : Standing engine first session events state) (pending : state.1.needsPrepare = true)
    (answer : Except Failure Unit) :
    preparing engine state answer =
      .exchange (.prepare ⟨state.2.prepared⟩ first.sql .insecure) answer := by
  obtain ⟨handle, prepareOptions, _, _⟩ := standing.phase.of_pending pending
  rw [preparing, handle, standing.sql_eq keeps, prepareOptions]

theorem fresh (standing : Standing engine first session events state) :
    first.handle ≠ ⟨state.2.prepared⟩ := by
  intro same
  have used := standing.numbered
  rw [same] at used
  exact Nat.lt_irrefl _ used

theorem attempts_preparing (keeps : engine.KeepsSql)
    (standing : Standing engine first session events state) (pending : state.1.needsPrepare = true)
    (answer : Except Failure Unit) {back : List Event} (rest : Attempts first back) :
    Attempts first (preparing engine state answer :: back) := by
  intro handle text options asked
  rw [standing.preparing_eq keeps pending, requests_exchange, List.mem_cons] at asked
  rcases asked with this | later
  · cases this
    exact ⟨standing.fresh, rfl, rfl⟩
  · exact rest handle text options later

theorem refuse {failure : Failure} {back : List Event} (keeps : engine.KeepsSql)
    (standing : Standing engine first session events state) (pending : state.1.needsPrepare = true)
    (refused : Refused engine failure state back stop) :
    Standing engine first session (events ++ back) stop where
  toLeads := standing.toLeads.trans refused.toLeads
  phase := by
    have none : preparations back = [] := by
      rw [refused.prepares]
      rfl
    rw [preparations_append, none, List.append_nil, refused.statement]
    exact standing.phase
  numbered := by
    rw [refused.numbered]
    exact Nat.lt_succ_of_lt standing.numbered
  attempts := by
    have none : Attempts first [] := fun _ _ _ asked => by cases asked
    rw [refused.prepares]
    exact standing.attempts.append (standing.attempts_preparing keeps pending _ none)

theorem replace {back : List Event} (keeps : engine.KeepsSql)
    (standing : Standing engine first session events state) (pending : state.1.needsPrepare = true)
    (replaced : Replaced engine state back stop) :
    preparations back = [⟨stop.1.handle, first.sql, .insecure⟩] ∧
      Standing engine first session (events ++ back) stop := by
  obtain ⟨_, insecure, _, unreplaced⟩ := standing.phase.of_pending pending
  obtain ⟨emissions, prepares⟩ := replaced.prepares
  rw [standing.preparing_eq keeps pending] at prepares
  have prepared : preparations back = [⟨stop.1.handle, first.sql, .insecure⟩] := by
    rw [prepares, replaced.statement]
    exact congrArg _ (preparations_told emissions)
  refine ⟨prepared, standing.toLeads.trans replaced.toLeads, ?_, ?_, ?_⟩
  · rw [preparations_append, prepared, List.cons.inj unreplaced |>.2, List.nil_append]
    refine .replaced ?_ ?_ ?_
    · rw [replaced.statement]
      exact standing.fresh
    · rw [replaced.statement]
      exact insecure
    · rw [replaced.statement]
  · rw [replaced.numbered]
    exact Nat.lt_succ_of_lt standing.numbered
  · rw [prepares, ← standing.preparing_eq keeps pending]
    apply standing.attempts.append
    apply standing.attempts_preparing keeps pending
    intro handle text options asked
    rw [requests_exchange, requests_told] at asked
    simp at asked

/-- What one call preserves. -/
theorem call {back : List Event} {call : Call} {outcome : Except Failure call.Answer}
    (keeps : engine.KeepsSql) (standing : Standing engine first session events state)
    (called : Called engine call state outcome back stop) :
    Standing engine first session (events ++ back) stop := by
  cases called with
  | marked =>
    rw [List.append_nil]
    exact standing.mark
  | kept unmarked idle retains => exact standing.retain retains
  | refused settles pending refused => exact standing.refuse keeps pending refused
  | replaced settles pending replaced retains =>
    rw [← List.append_assoc]
    exact (standing.replace keeps pending replaced).2.retain retains

/-- What any number of calls preserves. -/
theorem after (keeps : engine.KeepsSql) (calls : List Call)
    (standing : Standing engine first session events state) :
    ∃ back, Standing engine first session (events ++ back) (after engine calls state) := by
  induction calls generalizing events state with
  | nil => exact ⟨[], by rwa [List.append_nil]⟩
  | cons call rest ih =>
    obtain ⟨front, called⟩ := step_called engine call state
    obtain ⟨back, last⟩ := ih (standing.call keeps called)
    exact ⟨front ++ back, by rwa [← List.append_assoc]⟩

theorem of_prepare {sql : String} {options : PrepareOptions} {session opened : Session σ}
    {statement : Statement}
    (prepared : (Statement.prepare engine sql options).run session = (.ok statement, opened)) :
    Standing engine ⟨statement.handle, sql, options⟩ session [] (statement, opened) := by
  obtain ⟨later, ran, passes, numbered⟩ := Session.passes_prepare engine sql options session
  rw [Statement.prepare, Step.run_bind, ran] at prepared
  generalize (engine.answer (.prepare ⟨session.prepared⟩ sql options) session.state).1 = answer
    at passes prepared
  cases answer with
  | error failure => cases prepared
  | ok _ =>
    cases prepared
    refine ⟨passes.toLeads, .original rfl rfl rfl, ?_, fun _ _ _ asked => by cases asked⟩
    rw [numbered]
    exact Nat.lt_succ_self _

end Standing

end Statement

end SqlBridge
