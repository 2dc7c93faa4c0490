import Mathlib.Data.List.Basic
import SqlBridge.Proofs.UpdateStatement

/-!
# An update is a single pass

Whatever the engine answers, the phases of an update come at most once and in
order, nothing but the release of blobs comes after a failure, and the failure
is the outcome.
-/

set_option autoImplicit false

namespace SqlBridge

open Transcript

variable {σ : Type}

namespace Update

def OnlyIdentity (update : Update) (info : ColumnInformation) : Prop :=
  update.expressions = [] ∧ ∀ field ∈ update.literals, info.identity = some field.1

/-- What the events of an execution must be when the update sets something. -/
structure SinglePass (engine : Engine σ) (update : Update) (session : Session σ)
    (events : List Event) (outcome : Except Failure Nat) (later : Session σ) : Prop where
  leads : Session.Leads engine session events later
  schemaOnce : ofStage .schema events = [.columnInformation update.table]
  onlyIdentity : ∀ info,
    (engine.answer (.columnInformation update.table) session.state).1 = .ok info →
      (outcome = .ok 0 ∧ requests events = [.columnInformation update.table] ↔
        update.OnlyIdentity info)
  preparedOnce : ∀ info,
    (engine.answer (.columnInformation update.table) session.state).1 = .ok info →
      ¬ update.OnlyIdentity info → ∃ handle, ofStage .prepare events =
        [.prepare handle (update.textOf engine.dialect (update.assignments info)) {}]
  assigns : ∀ handle sql options, .prepare handle sql options ∈ requests events →
    ∃ items, items ≠ [] ∧ sql = update.textOf engine.dialect items
  runOnce : (ofStage .run events).length ≤ 1
  boundBeforeRun : ∀ info front handle arguments answer back,
    (engine.answer (.columnInformation update.table) session.state).1 = .ok info →
      events = front ++ .exchange (.run handle arguments) answer :: back →
        firstFailure? engine session.state front = none ∧
          ofStage .bind front =
            (update.bindings engine.dialect info).map (Binding.request handle)
  stops : ∀ request ∈ requests (afterFailure engine session.state events),
    ∃ handle, request = .releaseBlobs handle
  firstError : ∀ failure,
    outcome = .error failure ↔ firstFailure? engine session.state events = some failure
  rows : ∀ count, outcome = .ok count →
    count = 0 ∧ requests events = [.columnInformation update.table] ∨
      ∃ handle, .run handle none ∈ requests events ∧
        count = engine.rowCount later.state handle

theorem onlyIdentity_iff (update : Update) (info : ColumnInformation) :
    update.OnlyIdentity info ↔ update.assignments info = [] := by
  rw [OnlyIdentity, assignments_eq_nil_iff]
  apply and_congr_right
  intro noExpressions
  rw [assignedLiterals_of_expressions noExpressions, List.eq_nil_iff_forall_not_mem]
  constructor
  · intro identity field writable
    rw [mem_writableLiterals] at writable
    exact writable.2 (identity field writable.1)
  · intro nothing field listed
    by_cases identity : info.identity = some field.1
    · exact identity
    · exact absurd ((mem_writableLiterals update info field).mpr ⟨listed, identity⟩)
        (nothing field)

section

variable {engine : Engine σ} {update : Update} {session middle later : Session σ}
  {outcome : Except Failure (Option Handle)} {front release : List Event}

theorem Course.release_spec {dialect : Dialect}
    (course : Course update dialect outcome front release) :
    (∀ state : σ, firstFailure? engine state release = none) ∧
      ∀ request ∈ requests release, ∃ handle, request = .releaseBlobs handle := by
  have released : ∀ handle events,
      (∀ state : σ, firstFailure? engine state (Session.releaseAfter handle events) = none) ∧
        ∀ request ∈ requests (Session.releaseAfter handle events),
          ∃ handle, request = .releaseBlobs handle := by
    intro handle events
    refine ⟨?_, fun request asked => ⟨handle, Session.eq_of_mem_releaseAfter asked⟩⟩
    intro state
    unfold Session.releaseAfter
    split <;> rfl
  cases course with
  | unknown failure => exact ⟨fun _ => rfl, by simp⟩
  | nothingLeft info emissions nothing => exact ⟨fun _ => rfl, by simp⟩
  | assigning info emissions something assigning =>
    cases assigning with
    | unprepared handle failure => exact ⟨fun _ => rfl, by simp⟩
    | prepared handle ran => exact released handle _

theorem firstError_of_course (passes : Session.Passes engine session outcome front middle)
    (course : Course update engine.dialect outcome front release) :
    firstFailure? engine session.state (front ++ release) = failureOf outcome ∧
      ∀ request ∈ requests (afterFailure engine session.state (front ++ release)),
        ∃ handle, request = .releaseBlobs handle := by
  obtain ⟨fine, released⟩ := course.release_spec (σ := σ)
  have failed : firstFailure? engine session.state (front ++ release) = failureOf outcome := by
    rw [firstFailure?_append, passes.failure, fine, Option.or_none]
  refine ⟨failed, ?_⟩
  intro request asked
  cases outcome with
  | ok ran =>
    rw [afterFailure_of_none engine failed] at asked
    cases asked
  | error failure =>
    rw [afterFailure_append_of_some engine passes.failure, requests_append, passes.stops,
      List.nil_append] at asked
    exact released request asked

/-- Where one request is of a kind, there is only one way to split at a request of
that kind. -/
theorem split_unique {front back before after : List Request} {request only : Request}
    (same : front ++ request :: back = before ++ only :: after)
    (unlike : ∀ other ∈ before ++ after, other.stage ≠ request.stage) :
    front = before ∧ request = only := by
  have stages := congrArg (List.map Request.stage) same.symm
  rw [List.map_append, List.map_append, List.map_cons, List.map_cons] at stages
  have absent : ∀ others : List Request, (∀ other ∈ others, other ∈ before ++ after) →
      request.stage ∉ others.map Request.stage := by
    intro others inside listed
    obtain ⟨other, present, stage⟩ := List.mem_map.mp listed
    exact unlike other (inside other present) stage
  obtain ⟨stagesSame, _⟩ := (List.append_cons_inj_of_notMem
    (absent before fun _ => List.mem_append_left after)
    (absent after fun _ => List.mem_append_right before)).mp stages
  have lengths : front.length = before.length := by
    simpa using (congrArg List.length stagesSame).symm
  obtain ⟨frontSame, tails⟩ := List.append_inj same lengths
  exact ⟨frontSame, (List.cons.inj tails).1⟩

theorem noFailure_before_run {before after : List Event} {handle : Handle}
    {arguments : Option ParamList} {answer : Bool}
    (stops : ∀ request ∈ requests (afterFailure engine session.state
        (before ++ .exchange (.run handle arguments) answer :: after)),
      ∃ handle, request = .releaseBlobs handle) :
    firstFailure? engine session.state before = none := by
  cases failed : firstFailure? engine session.state before with
  | none => rfl
  | some failure =>
    rw [afterFailure_append_of_some engine failed, requests_append, requests_exchange] at stops
    obtain ⟨_, same⟩ := stops (.run handle arguments) (by simp)
    cases same

/-- Where nothing but the schema is asked, the table is unknown or nothing is left. -/
theorem SinglePass.of_schema_only {events : List Event} {outcome : Except Failure Nat}
    (leads : Session.Leads engine session events later)
    (asked : requests events = [.columnInformation update.table])
    (left : ∀ info,
      (engine.answer (.columnInformation update.table) session.state).1 = .ok info →
        outcome = .ok 0 ∧ update.assignments info = [])
    (stops : ∀ request ∈ requests (afterFailure engine session.state events),
      ∃ handle, request = .releaseBlobs handle)
    (firstError : ∀ failure,
      outcome = .error failure ↔ firstFailure? engine session.state events = some failure)
    (unaffected : ∀ count, outcome = .ok count → count = 0) :
    SinglePass engine update session events outcome later where
  leads := leads
  schemaOnce := by simp [ofStage, asked, Request.stage]
  onlyIdentity info reported := by
    obtain ⟨nothing, empty⟩ := left info reported
    rw [onlyIdentity_iff]
    exact ⟨fun _ => empty, fun _ => ⟨nothing, asked⟩⟩
  preparedOnce info reported something := by
    rw [onlyIdentity_iff] at something
    exact absurd (left info reported).2 something
  assigns handle sql options prepared := by simp [asked] at prepared
  runOnce := by simp [ofStage, asked, Request.stage]
  boundBeforeRun info front handle arguments answer back reported split := by
    rw [split, requests_append, requests_exchange] at asked
    have run : Request.run handle arguments ∈ [Request.columnInformation update.table] := by
      rw [← asked]
      simp
    simp at run
  stops := stops
  firstError := firstError
  rows count answered := .inl ⟨unaffected count answered, asked⟩

theorem filter_bind_before_run (bindings : List Binding) (handle : Handle)
    (mode : Option FetchMode) :
    (bindings.map (Binding.request handle) ++ Statement.modeRequests handle mode).filter
      (fun request => request.stage = .bind) = bindings.map (Binding.request handle) := by
  have unbound := filter_stage_eq_nil .bind fun request
      (listed : request ∈ Statement.modeRequests handle mode) => by
    simp [Statement.stage_of_mem_modeRequests listed]
  rw [List.filter_append, Binding.filter_bind_map, unbound, List.append_nil]

/-- A run is asked for at most once, after everything is bound, and the outcome is
the handle that has run. -/
theorem Assigning.run_spec {dialect : Dialect} {info : ColumnInformation} {events : List Event}
    (assigning : Assigning update dialect info outcome front release)
    (asked : requests events = .columnInformation update.table :: requests (front ++ release)) :
    (ofStage .run events).length ≤ 1 ∧
    (∀ before handle arguments answer after,
      events = before ++ .exchange (.run handle arguments) answer :: after →
        ofStage .bind before = (update.bindings dialect info).map (Binding.request handle)) ∧
    ∀ ran, outcome = .ok ran →
      ∃ handle, ran = some handle ∧ .run handle none ∈ requests events := by
  rcases assigning.run_cases with ⟨_, failure, rfl, _, unrun⟩ | ⟨handle, rest, bound, rests, ran⟩
  · have never : ∀ request ∈ requests events, request.stage ≠ .run := by
      intro request listed
      rw [asked, List.mem_cons] at listed
      rcases listed with rfl | later
      · simp [Request.stage]
      · exact unrun request later
    refine ⟨?_, ?_, fun _ answered => by cases answered⟩
    · rw [ofStage, filter_stage_eq_nil .run never]
      exact Nat.zero_le 1
    · rintro before handle arguments answer after rfl
      exact absurd rfl (never (.run handle arguments) (by simp))
  · obtain ⟨front, start⟩ : ∃ front : List Request, front =
        .columnInformation update.table :: .prepare handle (update.statementText dialect info) {} ::
          ((update.bindings dialect info).map (Binding.request handle) ++
            Statement.modeRequests handle update.options.mode?) := ⟨_, rfl⟩
    have split : requests events = front ++ .run handle none :: rest := by
      rw [asked, bound, start]
      simp only [List.cons_append, List.append_assoc]
    have unrun : ∀ request ∈ front ++ rest, request.stage ≠ .run := by
      intro request listed
      rw [start] at listed
      simp only [List.cons_append, List.mem_cons, List.mem_append] at listed
      rcases listed with rfl | rfl | (binding | mode) | later
      · simp [Request.stage]
      · simp [Request.stage]
      · obtain ⟨binding, _, rfl⟩ := List.mem_map.mp binding
        simp
      · simp [Statement.stage_of_mem_modeRequests mode]
      · intro run
        simpa [run] using rests request later
    refine ⟨?_, ?_, ?_⟩
    · have others := filter_stage_eq_nil .run unrun
      rw [List.filter_append, List.append_eq_nil_iff] at others
      rw [ofStage, split, List.filter_append, List.filter_cons, others.1, others.2]
      simp [Request.stage]
    · rintro before other arguments answer after rfl
      rw [requests_append, requests_exchange] at split
      obtain ⟨same, run⟩ := split_unique split unrun
      cases run
      rw [ofStage, same, start]
      exact filter_bind_before_run (update.bindings dialect info) handle update.options.mode?
    · intro answer answered
      refine ⟨handle, ran answer answered, ?_⟩
      rw [split]
      simp

theorem SinglePass.of_assigning {events : List Event} {info : ColumnInformation}
    (leads : Session.Leads engine session events later)
    (reported : (engine.answer (.columnInformation update.table) session.state).1 = .ok info)
    (something : update.assignments info ≠ [])
    (assigning : Assigning update engine.dialect info outcome front release)
    (asked : requests events = .columnInformation update.table :: requests (front ++ release))
    (stops : ∀ request ∈ requests (afterFailure engine session.state events),
      ∃ handle, request = .releaseBlobs handle)
    (firstError : ∀ failure, outcome.map (affected engine later.state) = .error failure ↔
      firstFailure? engine session.state events = some failure) :
    SinglePass engine update session events (outcome.map (affected engine later.state)) later := by
  obtain ⟨prepared, rest, first, others⟩ := assigning.requests_eq
  have outside : ∀ stage : Request.Stage,
      stage ∉ [Request.Stage.bind, .mode, .run, .columns, .release] →
        rest.filter (fun request => request.stage = stage) = [] := by
    intro stage out
    exact filter_stage_eq_nil stage fun request listed same => out (same ▸ others request listed)
  have all := asked
  rw [first, statementText_eq] at all
  have known : ∀ other,
      (engine.answer (.columnInformation update.table) session.state).1 = .ok other →
        other = info := by
    intro other answered
    rw [reported] at answered
    exact (Except.ok.inj answered).symm
  obtain ⟨once, bound, ran⟩ := assigning.run_spec asked
  refine
    { leads, stops, firstError
      schemaOnce := ?_
      onlyIdentity := ?_
      preparedOnce := ?_
      assigns := ?_
      runOnce := ?_
      boundBeforeRun := ?_
      rows := ?_ }
  · rw [ofStage, all, List.filter_cons, List.filter_cons, outside .schema (by decide)]
    rfl
  · intro other answered
    rw [known other answered, onlyIdentity_iff, all]
    exact ⟨fun silent => by simp at silent, fun nothing => absurd nothing something⟩
  · intro other answered _
    refine ⟨prepared, ?_⟩
    rw [known other answered, ofStage, all, List.filter_cons, List.filter_cons,
      outside .prepare (by decide)]
    rfl
  · intro handle sql options listed
    rw [all, List.mem_cons, List.mem_cons] at listed
    rcases listed with schema | same | later
    · cases schema
    · cases same
      exact ⟨update.assignments info, something, rfl⟩
    · have stage := others _ later
      simp [Request.stage] at stage
  · exact once
  · rintro other before handle arguments answer after answered rfl
    rw [known other answered]
    exact ⟨noFailure_before_run stops, bound before handle arguments answer after rfl⟩
  · intro count answered
    cases outcome with
    | error failure => cases answered
    | ok answer =>
      obtain ⟨handle, rfl, run⟩ := ran answer rfl
      exact .inr ⟨handle, run, (Except.ok.inj answered).symm⟩

/-- An update that sets nothing is refused at once; any other is a single pass. -/
theorem execute_singlePass (engine : Engine σ) (update : Update) (session : Session σ) :
    let later := ((update.execute engine).run session).2
    if assignsNothing update.literals update.expressions = true then
      (update.execute engine).run session =
        (.error (.validation ("UPDATE " ++ update.table ++ ": SET clause cannot be empty")),
          session)
    else
      SinglePass engine update session (later.since session)
        ((update.execute engine).run session).1 later := by
  intro later
  split
  next unset => exact run_execute_of_assignsNothing engine update session unset
  next set =>
    obtain ⟨outcome, front, release, middle, after, passes, released, course, ran⟩ :=
      execute_course engine update session (by simpa using set)
    have leads := passes.toLeads.trans released
    obtain ⟨failed, stops⟩ := firstError_of_course passes course
    have firstError : ∀ failure, outcome.map (affected engine after.state) = .error failure ↔
        firstFailure? engine session.state (front ++ release) = some failure := by
      intro failure
      rw [failed]
      cases outcome <;> simp [Except.map, failureOf]
    simp only [later, ran, leads.since_eq]
    have answered := passes.genuine
    cases course with
    | unknown failure =>
      apply SinglePass.of_schema_only leads rfl ?_ stops firstError (by simp [Except.map])
      intro info reported
      have refused := answered.1
      rw [Event.Genuine, reported] at refused
      cases refused
    | nothingLeft info emissions nothing =>
      refine SinglePass.of_schema_only leads ?_ ?_ stops firstError ?_
      · rw [List.append_nil, requests_exchange, requests_told]
      · intro other reported
        have same := answered.1
        rw [Event.Genuine, reported] at same
        cases same
        exact ⟨rfl, nothing⟩
      · intro count answered
        exact (Except.ok.inj answered).symm
    | assigning info emissions something assigning =>
      apply SinglePass.of_assigning leads answered.1.symm something assigning ?_ stops firstError
      rw [List.append_assoc, List.cons_append, requests_exchange, requests_append, requests_told,
        List.nil_append]

end

end Update

end SqlBridge
