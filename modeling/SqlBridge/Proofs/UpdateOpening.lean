import SqlBridge.Proofs.UpdateStatement

/-!
# An update before its first binding

An execution falls into two parts.  In the first the table is looked up and the statement is
prepared; in the second everything is bound to the handle and it is run.  The first has no use for
a value, and the second prepares nothing.
-/

set_option autoImplicit false

namespace SqlBridge

open Transcript

variable {σ : Type}

def Request.text? : Request → Option String
  | .prepare _ sql _ => some sql
  | _ => none

def Request.placeholder? : Request → Option String
  | .bindValue _ placeholder _ => some placeholder
  | .bindBlob _ placeholder _ => some placeholder
  | _ => none

theorem Request.text?_of_stage {request : Request} (other : request.stage ≠ .prepare) :
    request.text? = none := by
  cases request <;> first | rfl | exact absurd rfl other

theorem Request.placeholder?_of_stage {request : Request} (other : request.stage ≠ .bind) :
    request.placeholder? = none := by
  cases request <;> first | rfl | exact absurd rfl other

namespace Binding

def placeholder : Binding → String
  | value placeholder _ => placeholder
  | blob placeholder _ => placeholder

@[simp] theorem placeholder?_request (handle : Handle) (binding : Binding) :
    (binding.request handle).placeholder? = some binding.placeholder := by
  cases binding <;> rfl

end Binding

namespace Transcript

def texts (events : List Event) : List String :=
  (requests events).filterMap Request.text?

def placeholders (events : List Event) : List String :=
  (requests events).filterMap Request.placeholder?

theorem texts_append (front back : List Event) :
    texts (front ++ back) = texts front ++ texts back := by
  rw [texts, requests_append, List.filterMap_append, texts, texts]

theorem placeholders_append (front back : List Event) :
    placeholders (front ++ back) = placeholders front ++ placeholders back := by
  rw [placeholders, requests_append, List.filterMap_append, placeholders, placeholders]

theorem texts_of_stage {events : List Event}
    (others : ∀ request ∈ requests events, request.stage ≠ .prepare) : texts events = [] := by
  rw [texts, List.filterMap_eq_nil_iff]
  exact fun request asked => Request.text?_of_stage (others request asked)

theorem placeholders_of_stage {events : List Event}
    (others : ∀ request ∈ requests events, request.stage ≠ .bind) : placeholders events = [] := by
  rw [placeholders, List.filterMap_eq_nil_iff]
  exact fun request asked => Request.placeholder?_of_stage (others request asked)

end Transcript

/-! ## Bindings in order -/

theorem Binding.filterMap_placeholder? (handle : Handle) (bindings : List Binding) :
    (bindings.map (request handle)).filterMap Request.placeholder? = bindings.map placeholder := by
  rw [List.filterMap_map, ← List.filterMap_eq_map]
  congr 1
  funext binding
  exact placeholder?_request handle binding

theorem Bound.placeholders_prefix {handle : Handle} {bindings : List Binding} {events : List Event}
    {outcome : Except Failure Unit} (bound : Bound handle bindings events outcome) :
    placeholders events <+: bindings.map Binding.placeholder := by
  rw [← Binding.filterMap_placeholder? handle bindings]
  exact bound.requests_prefix.filterMap _

structure BindsInOrder (bindings : List Binding) (events : List Event) : Prop where
  ordered : placeholders events <+: bindings.map Binding.placeholder
  complete : (∀ event ∈ events, event.refusesBinding = false) →
    placeholders events = bindings.map Binding.placeholder

theorem Ran.bindsInOrder {handle : Handle} {bindings : List Binding} {mode : Option FetchMode}
    {events : List Event} {outcome : Except Failure Unit}
    (ran : Ran handle bindings mode events outcome) : BindsInOrder bindings events := by
  cases ran with
  | unbound failure bound =>
    refine ⟨bound.placeholders_prefix, fun accepted => ?_⟩
    obtain ⟨binding, _, tried⟩ := bound.refused_of_error rfl
    have refused := accepted _ tried
    rw [Binding.refusesBinding_event] at refused
    cases refused
  | @ran back rest outcome asked columns =>
    have unbound : placeholders back = [] := by
      apply placeholders_of_stage
      intro request listed
      rw [asked] at listed
      exact Statement.stage_ne_bind_of_mem_run columns listed
    have all : placeholders (bindings.map (Binding.event handle (.ok ())) ++ back) =
        bindings.map Binding.placeholder := by
      rw [placeholders_append, unbound, List.append_nil, placeholders,
        Binding.requests_map_event, Binding.filterMap_placeholder?]
    exact ⟨all ▸ List.prefix_rfl, fun _ => all⟩

theorem BindsInOrder.within {bindings : List Binding} {events more : List Event}
    (binds : BindsInOrder bindings events) (among : events ⊆ more)
    (same : placeholders more = placeholders events) : BindsInOrder bindings more where
  ordered := same ▸ binds.ordered
  complete accepted := same ▸ binds.complete fun event during => accepted event (among during)

/-! ## Sending SQL -/

namespace Session

variable (engine : Engine σ)

structure Sends (session : Session σ) (events : List Event) (later : Session σ)
    (sql : List String) : Prop extends Leads engine session events later where
  unbound : placeholders events = []
  sent : texts events = sql

namespace Sends

variable {engine} {session middle later : Session σ} {front back : List Event}
  {first second : List String}

theorem trans (before : Sends engine session front middle first)
    (behind : Sends engine middle back later second) :
    Sends engine session (front ++ back) later (first ++ second) where
  toLeads := before.toLeads.trans behind.toLeads
  unbound := by rw [placeholders_append, before.unbound, behind.unbound, List.append_nil]
  sent := by rw [texts_append, before.sent, behind.sent]

theorem note (session : Session σ) (emissions : List Emission) :
    Sends engine session (told emissions) (session.note (told emissions)) [] where
  toLeads := .note session emissions
  unbound := by rw [placeholders, requests_told, List.filterMap_nil]
  sent := by rw [texts, requests_told, List.filterMap_nil]

end Sends

def grants (session : Session σ) (sql : String) : Bool :=
  (failureOf (engine.answer (.prepare ⟨session.prepared⟩ sql {}) session.state).1).isNone

theorem grants_note (session : Session σ) (events : List Event) :
    (session.note events).grants engine = session.grants engine := rfl

end Session

theorem Statement.prepare_sends (engine : Engine σ) (text : String) (session : Session σ) :
    ∃ events, Session.Sends engine session events ((prepare engine text {}).run session).2 [text] ∧
      (failureOf ((prepare engine text {}).run session).1).isNone =
        session.grants engine text := by
  obtain ⟨later, ran, passes, _⟩ := Session.passes_prepare engine text {} session
  rw [prepare, Step.run_bind, ran, Session.grants]
  cases answer : (engine.answer (.prepare ⟨session.prepared⟩ text {}) session.state).1 with
  | error failure => exact ⟨_, ⟨passes.toLeads, rfl, rfl⟩, rfl⟩
  | ok _ => exact ⟨_, ⟨passes.toLeads, rfl, rfl⟩, rfl⟩

/-! ## The two parts -/

namespace Update

variable (engine : Engine σ)

/-- The statement that is to be bound and run, with the columns that it has been made for, or
nothing if nothing is left to assign. -/
def preparation (update : Update) (info : ColumnInformation) :
    Step (Session σ) (Option (ColumnInformation × Statement)) := do
  Session.notifyAll (update.identityNotices info)
  if assignsNothing (update.writableLiterals info) update.expressions then
    Session.notify (.nothingToUpdate update.table)
    return none
  else
    return some (info, ← Statement.prepare engine (update.statementText engine.dialect info) {})

def opening (update : Update) : Step (Session σ) (Option (ColumnInformation × Statement)) := do
  let info ← Session.columnInformation engine update.table
  update.preparation engine info

def closing (update : Update) : Option (ColumnInformation × Statement) → Step (Session σ) Nat
  | none => return 0
  | some (info, statement) => do
    let (outcome, holder) ← Step.beside BlobHolder.empty
      (update.bindAndRun engine statement (update.writableLiterals info) info
        (update.compiledCondition engine.dialect))
    Session.releaseHeld engine statement.handle holder
    Step.ofExcept outcome
    Session.reading fun state => engine.rowCount state statement.handle

theorem execute_eq_opening (update : Update) :
    update.execute engine =
      Step.ofExcept update.validate >>= fun _ =>
        update.opening engine >>= update.closing engine := by
  unfold opening preparation execute
  simp only [Step.bind_assoc]
  congr
  funext _
  congr
  funext info
  congr
  funext _
  split
  · rfl
  · rw [Step.bind_assoc]
    rfl

/-! ## What they depend on -/

def preparedTexts (update : Update) (dialect : Dialect) :
    Except Failure ColumnInformation → List String
  | .error _ => []
  | .ok info =>
    if update.assignments info = [] then [] else [update.statementText dialect info]

/-- The columns that an update binds its values for, by what the schema says of its table and
which SQL can be prepared. -/
def boundFor (update : Update) (dialect : Dialect) (grants : String → Bool) :
    Except Failure ColumnInformation → Option ColumnInformation
  | .error _ => none
  | .ok info =>
    if update.assignments info = [] then none
    else if grants (update.statementText dialect info) then some info
    else none

section

variable {update : Update} (nothing : ∀ info, update.assignments info = []) (dialect : Dialect)
  (known : Except Failure ColumnInformation)

include nothing

theorem preparedTexts_of_nothing : update.preparedTexts dialect known = [] := by
  cases known with
  | error failure => rfl
  | ok info => exact if_pos (nothing info)

theorem boundFor_of_nothing (grants : String → Bool) :
    update.boundFor dialect grants known = none := by
  cases known with
  | error failure => rfl
  | ok info => exact if_pos (nothing info)

end

def boundIn (update : Update) (session : Session σ) : Option ColumnInformation :=
  update.boundFor engine.dialect
    ((session.answered engine (.columnInformation update.table)).grants engine)
    (engine.answer (.columnInformation update.table) session.state).1

def openedFor : Except Failure (Option (ColumnInformation × Statement)) → Option ColumnInformation
  | .ok (some (info, _)) => some info
  | _ => none

theorem preparation_sends (update : Update) (info : ColumnInformation) (session : Session σ) :
    let prepared := (update.preparation engine info).run session
    ∃ events, Session.Sends engine session events prepared.2
        (update.preparedTexts engine.dialect (.ok info)) ∧
      openedFor prepared.1 =
        update.boundFor engine.dialect (session.grants engine) (.ok info) := by
  intro prepared
  let notices := (update.identityNotices info).map Emission.reported
  have noted : Session.Sends engine session _ _ [] := .note session notices
  simp only [prepared, preparation, Step.run_bind, Session.run_notifyAll, preparedTexts, boundFor]
  by_cases nothing : update.assignments info = []
  · have empty := (assignsNothing_writableLiterals update info).mpr nothing
    simp only [if_pos empty, if_pos nothing, Session.notify, Step.run_bind, Session.run_notifyAll,
      Step.run_pure]
    exact ⟨_, noted.trans (.note _ _), rfl⟩
  · have left := mt (assignsNothing_writableLiterals update info).mp nothing
    obtain ⟨events, sends, granted⟩ := Statement.prepare_sends engine
      (update.statementText engine.dialect info) (session.note (told notices))
    rw [Session.grants_note] at granted
    simp only [if_neg left, if_neg nothing, Step.run_bind, ← granted]
    rcases ran : (Statement.prepare engine (update.statementText engine.dialect info) {}).run
      (session.note (told notices)) with ⟨failure | statement, later⟩
    · rw [ran] at sends
      exact ⟨_, noted.trans sends, rfl⟩
    · rw [ran] at sends
      exact ⟨_, noted.trans sends, rfl⟩

theorem opening_sends (update : Update) (session : Session σ) :
    let known := (engine.answer (.columnInformation update.table) session.state).1
    let opened := (update.opening engine).run session
    ∃ events, Session.Sends engine session events opened.2
        (update.preparedTexts engine.dialect known) ∧
      openedFor opened.1 = update.boundIn engine session := by
  intro known opened
  have reported : (Session.columnInformation engine update.table).run session =
      (known, session.answered engine (.columnInformation update.table)) := rfl
  have asked : Session.Sends engine session
      [.exchange (.columnInformation update.table) known] _ [] :=
    ⟨.ask session (.columnInformation update.table), rfl, rfl⟩
  have bound : update.boundIn engine session = update.boundFor engine.dialect
      ((session.answered engine (.columnInformation update.table)).grants engine) known := rfl
  simp only [opened, opening, Step.run_bind, reported, bound]
  cases known with
  | error failure => exact ⟨_, asked, rfl⟩
  | ok info =>
    obtain ⟨events, sends, granted⟩ := preparation_sends engine update info
      (session.answered engine (.columnInformation update.table))
    exact ⟨_, asked.trans sends, granted⟩

theorem closing_binds (update : Update) (info : ColumnInformation) (statement : Statement)
    (session : Session σ) :
    ∃ events, Session.Leads engine session events
        ((update.closing engine (some (info, statement))).run session).2 ∧
      texts events = [] ∧ BindsInOrder (update.bindings engine.dialect info) events := by
  obtain ⟨events, passes, ran, held⟩ := bindAndRun_ran engine update statement info session
  simp only [closing, Step.run_bind, Step.run_beside]
  rcases bound : (update.bindAndRun engine statement (update.writableLiterals info) info
    (update.compiledCondition engine.dialect)).run (.empty, session) with ⟨outcome, holder, after⟩
  rw [bound] at passes ran held
  obtain ⟨later, released, leads⟩ :=
    Session.releaseHeld_leads engine statement.handle events holder held after
  have stages : ∀ request ∈ requests (Session.releaseAfter statement.handle events),
      request.stage = .release := by
    intro request asked
    rw [Session.eq_of_mem_releaseAfter asked]
    rfl
  have textless : texts events = [] := by
    apply texts_of_stage
    intro request during prepares
    simpa [prepares] using ran.stage_of_mem during
  refine ⟨events ++ Session.releaseAfter statement.handle events, ?_, ?_, ?_⟩
  · simp only [released]
    cases outcome <;> exact passes.toLeads.trans leads
  · rw [texts_append, textless, texts_of_stage fun request after => by simp [stages request after]]
    rfl
  · apply ran.bindsInOrder.within (List.subset_append_left ..)
    rw [placeholders_append, List.append_right_eq_self]
    exact placeholders_of_stage fun request after => by simp [stages request after]

/-- What the schema says, and then whether the text can be prepared, settles the text that is sent
and whether anything is bound to it. -/
theorem execute_shows (update : Update) (session : Session σ) :
    let known := (engine.answer (.columnInformation update.table) session.state).1
    let events := ((update.execute engine).run session).2.since session
    texts events = update.preparedTexts engine.dialect known ∧
      (update.boundIn engine session = none → placeholders events = []) ∧
      ∀ info, update.boundIn engine session = some info →
        BindsInOrder (update.bindings engine.dialect info) events := by
  intro known events
  by_cases unset : assignsNothing update.literals update.expressions = true
  · have nothing := assignments_eq_nil_of_assignsNothing unset
    have silent : events = [] := since_execute_of_assignsNothing engine update session unset
    have none : update.boundIn engine session = none := boundFor_of_nothing nothing ..
    rw [silent, preparedTexts_of_nothing nothing, none]
    exact ⟨rfl, fun _ => rfl, by simp⟩
  have valid : update.validate = .ok () := by
    rw [validate, if_neg unset]
  obtain ⟨front, sends, opensFor⟩ := opening_sends engine update session
  have ran : (update.execute engine).run session =
      (update.opening engine >>= update.closing engine).run session := by
    rw [execute_eq_opening, Step.run_bind, Step.run_ofExcept, valid]
  simp only [events, ran, Step.run_bind]
  rcases opened : (update.opening engine).run session with ⟨failure | _ | ⟨info, statement⟩, middle⟩
  · rw [opened] at sends opensFor
    have none : update.boundIn engine session = none := opensFor.symm
    simp only [sends.since_eq]
    exact ⟨sends.sent, fun _ => sends.unbound, by simp [none]⟩
  · rw [opened] at sends opensFor
    have none : update.boundIn engine session = none := opensFor.symm
    simp only [closing, Step.run_pure, sends.since_eq]
    exact ⟨sends.sent, fun _ => sends.unbound, by simp [none]⟩
  · rw [opened] at sends opensFor
    have known : update.boundIn engine session = some info := opensFor.symm
    obtain ⟨back, closed, silent, binds⟩ := closing_binds engine update info statement middle
    simp only [(sends.toLeads.trans closed).since_eq]
    refine ⟨by rw [texts_append, sends.sent, silent, List.append_nil], by simp [known], ?_⟩
    intro columns same
    cases known.symm.trans same
    apply binds.within (List.subset_append_right ..)
    rw [placeholders_append, sends.unbound, List.nil_append]

end Update

end SqlBridge
