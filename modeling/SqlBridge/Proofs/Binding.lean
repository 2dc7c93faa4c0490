import SqlBridge.Session.Binding
import SqlBridge.Proofs.Transcript

/-!
# What is bound, and in which order

Expression arguments, numbered literals and condition arguments are all bound
the same way: one binding after the other until one is refused.  `Bound` says
which events a list of bindings can come to.
-/

set_option autoImplicit false

namespace SqlBridge

open Transcript

def Request.blob? : Request → Option ByteArray
  | .bindBlob _ _ bytes => some bytes
  | _ => none

theorem Request.blob?_of_stage {request : Request} (other : request.stage ≠ .bind) :
    request.blob? = none := by
  cases request <;> first | rfl | exact absurd rfl other

inductive Binding where
  | value (placeholder : String) (value : Value)
  | blob (placeholder : String) (bytes : ByteArray)
  deriving DecidableEq

namespace Binding

def request (handle : Handle) : Binding → Request
  | value placeholder content => .bindValue handle placeholder content
  | blob placeholder bytes => .bindBlob handle placeholder bytes

def blob? : Binding → Option ByteArray
  | value _ _ => none
  | blob _ bytes => some bytes

def event (handle : Handle) (answer : Except Failure Unit) : Binding → Event
  | value placeholder content => .exchange (.bindValue handle placeholder content) answer
  | blob placeholder bytes => .exchange (.bindBlob handle placeholder bytes) answer

def ofParam (param : Param) : Binding :=
  value param.placeholder param.value

def ofLiteral (info : ColumnInformation) (placeholder field : String) : Value → Binding
  | .bytes bytes => blob placeholder bytes
  | .text text =>
    if info.isBlob field then blob placeholder text.toUTF8 else value placeholder (.text text)
  | other => value placeholder other

def ofLiteralsFrom (info : ColumnInformation) (placeholder : Nat → String) (number : Nat)
    (literals : Fields Value) : List Binding :=
  (literals.zipIdx number).map fun numbered =>
    ofLiteral info (placeholder numbered.2) numbered.1.1 numbered.1.2

def ofExpressions (expressions : Fields Expression) : List Binding :=
  expressions.flatMap fun field => field.2.arguments.params.map ofParam

theorem ofLiteral_eq (info : ColumnInformation) (placeholder field : String) (content : Value) :
    ofLiteral info placeholder field content =
      match Session.blobOf? info field content with
      | some bytes => blob placeholder bytes
      | none => value placeholder content := by
  cases content with
  | text text =>
    by_cases large : info.isBlob field = true <;>
      simp [Session.blobOf?, Value.isBlob, Value.toBytes?, ofLiteral, large]
  | bytes bytes => simp [Session.blobOf?, Value.isBlob, Value.toBytes?, ofLiteral]
  | _ => simp [Session.blobOf?, Value.isBlob, Value.toBytes?, ofLiteral]

@[simp] theorem request?_event (handle : Handle) (answer : Except Failure Unit)
    (binding : Binding) :
    (binding.event handle answer).request? = some (binding.request handle) := by
  cases binding <;> rfl

@[simp] theorem blob?_request (handle : Handle) (binding : Binding) :
    (binding.request handle).blob? = binding.blob? := by
  cases binding <;> rfl

theorem blob?_of_mem_ofExpressions {expressions : Fields Expression} {binding : Binding}
    (listed : binding ∈ ofExpressions expressions) : binding.blob? = none := by
  obtain ⟨field, _, argument⟩ := List.mem_flatMap.mp listed
  obtain ⟨param, _, rfl⟩ := List.mem_map.mp argument
  rfl

@[simp] theorem stage_request (handle : Handle) (binding : Binding) :
    (binding.request handle).stage = .bind := by
  cases binding <;> rfl

theorem filter_bind_map (handle : Handle) (bindings : List Binding) :
    (bindings.map (request handle)).filter (fun request => request.stage = .bind) =
      bindings.map (request handle) := by
  rw [List.filter_eq_self]
  intro request listed
  obtain ⟨binding, _, rfl⟩ := List.mem_map.mp listed
  exact decide_eq_true (binding.stage_request handle)

theorem requests_map_event (handle : Handle) (answer : Except Failure Unit)
    (bindings : List Binding) :
    requests (bindings.map (event handle answer)) = bindings.map (request handle) := by
  induction bindings with
  | nil => rfl
  | cons binding rest ih =>
    rw [List.map_cons, List.map_cons, ← ih]
    simp [requests]

end Binding

/-- Everything that the binding of a list can come to: all of it is bound, or
one binding is refused and those after it are not tried. -/
inductive Bound (handle : Handle) : List Binding → List Event → Except Failure Unit → Prop where
  | done : Bound handle [] [] (.ok ())
  | refused (binding : Binding) (rest : List Binding) (failure : Failure) :
      Bound handle (binding :: rest) [binding.event handle (.error failure)] (.error failure)
  | bound (binding : Binding) {rest : List Binding} {events : List Event}
      {outcome : Except Failure Unit} (later : Bound handle rest events outcome) :
      Bound handle (binding :: rest) (binding.event handle (.ok ()) :: events) outcome

namespace Bound

variable {handle : Handle} {bindings more : List Binding} {front back : List Event}
  {outcome : Except Failure Unit} {failure : Failure}

theorem single (binding : Binding) (answer : Except Failure Unit) :
    Bound handle [binding] [binding.event handle answer] answer := by
  cases answer with
  | error failure => exact .refused binding [] failure
  | ok _ => exact .bound binding .done

theorem append {answer : Except Failure Unit} (first : Bound handle bindings front answer)
    (fine : answer = .ok ()) (second : Bound handle more back outcome) :
    Bound handle (bindings ++ more) (front ++ back) outcome := by
  induction first with
  | done => exact second
  | refused binding rest failure => cases fine
  | bound binding later ih => exact .bound binding (ih fine)

theorem append_of_error (first : Bound handle bindings front outcome)
    (failed : outcome = .error failure) (more : List Binding) :
    Bound handle (bindings ++ more) front outcome := by
  induction first with
  | done => cases failed
  | refused binding rest first => exact .refused binding (rest ++ more) first
  | bound binding later ih => exact .bound binding (ih failed)

theorem events_of_ok (bound : Bound handle bindings front outcome) (fine : outcome = .ok ()) :
    front = bindings.map fun binding => binding.event handle (.ok ()) := by
  induction bound with
  | done => rfl
  | refused binding rest failure => cases fine
  | bound binding later ih => rw [List.map_cons, ← ih fine]

theorem refused_of_error (bound : Bound handle bindings front outcome)
    (failed : outcome = .error failure) :
    ∃ binding ∈ bindings, binding.event handle (.error failure) ∈ front := by
  induction bound with
  | done => cases failed
  | refused binding rest first =>
    cases failed
    exact ⟨binding, List.mem_cons_self, List.mem_cons_self⟩
  | bound binding later ih =>
    obtain ⟨refused, listed, tried⟩ := ih failed
    exact ⟨refused, List.mem_cons_of_mem _ listed, List.mem_cons_of_mem _ tried⟩

theorem requests_prefix (bound : Bound handle bindings front outcome) :
    requests front <+: bindings.map (Binding.request handle) := by
  induction bound with
  | done => exact List.prefix_rfl
  | refused binding rest failure =>
    exact ⟨rest.map (Binding.request handle), by simp [requests]⟩
  | bound binding later ih =>
    simp only [requests, List.filterMap_cons, Binding.request?_event, List.map_cons]
    exact List.cons_prefix_cons.mpr ⟨rfl, ih⟩

theorem blobs_eq_nil (bound : Bound handle bindings front outcome)
    (inline : ∀ binding ∈ bindings, binding.blob? = none) :
    (requests front).filterMap Request.blob? = [] := by
  rw [List.filterMap_eq_nil_iff]
  intro request asked
  obtain ⟨binding, listed, rfl⟩ := List.mem_map.mp (bound.requests_prefix.subset asked)
  rw [Binding.blob?_request, inline binding listed]

theorem stage_of_mem (bound : Bound handle bindings front outcome) {request : Request}
    (asked : request ∈ requests front) : request.stage = .bind := by
  obtain ⟨binding, _, rfl⟩ := List.mem_map.mp (bound.requests_prefix.subset asked)
  exact Binding.stage_request handle binding

end Bound

namespace Session

variable {σ : Type} (engine : Engine σ)

theorem passes_bindValue (handle : Handle) (placeholder : String) (value : Value)
    (session : Session σ) :
    Passes engine session ((bindValue engine handle placeholder value).run session).1
      [(Binding.value placeholder value).event handle
        ((bindValue engine handle placeholder value).run session).1]
      ((bindValue engine handle placeholder value).run session).2 :=
  .ask session (.bindValue handle placeholder value) _ rfl

theorem passes_bindBlob (handle : Handle) (placeholder : String) (bytes : ByteArray)
    (session : Session σ) :
    Passes engine session ((bindBlob engine handle placeholder bytes).run session).1
      [(Binding.blob placeholder bytes).event handle
        ((bindBlob engine handle placeholder bytes).run session).1]
      ((bindBlob engine handle placeholder bytes).run session).2 :=
  .ask session (.bindBlob handle placeholder bytes) _ rfl

theorem bindParams_bound (handle : Handle) (params : List Param) (session : Session σ) :
    ∃ events, Passes engine session ((bindParams engine handle params).run session).1 events
        ((bindParams engine handle params).run session).2 ∧
      Bound handle (params.map Binding.ofParam) events
        ((bindParams engine handle params).run session).1 := by
  induction params generalizing session with
  | nil => exact ⟨[], .pure session (), .done⟩
  | cons param rest ih =>
    have first := passes_bindValue engine handle param.placeholder param.value session
    simp only [bindParams, Step.run_bind]
    rcases answered : (bindValue engine handle param.placeholder param.value).run session with
      ⟨failure | _, middle⟩
    · rw [answered] at first
      exact ⟨_, first, .refused (.ofParam param) _ failure⟩
    · rw [answered] at first
      obtain ⟨events, passes, bound⟩ := ih middle
      exact ⟨_, first.andThen passes, .bound (.ofParam param) bound⟩

/-- Once all arguments are bound, the literals that an expression overrides are gone. -/
theorem bindExpressions_bound (handle : Handle) (expressions : Fields Expression)
    (literals : Fields Value) (session : Session σ) :
    ∃ events, Passes engine session
        ((bindExpressions engine handle expressions).run (literals, session)).1 events
        ((bindExpressions engine handle expressions).run (literals, session)).2.2 ∧
      Bound handle (Binding.ofExpressions expressions) events
        ((bindExpressions engine handle expressions).run (literals, session)).1 ∧
      (((bindExpressions engine handle expressions).run (literals, session)).1 = .ok () →
        ((bindExpressions engine handle expressions).run (literals, session)).2.1 =
          literals.filter fun field => field.1 ∉ Fields.names expressions) := by
  induction expressions generalizing literals session with
  | nil => exact ⟨[], .pure session (), .done, fun _ => (List.filter_eq_self.mpr (by simp)).symm⟩
  | cons field rest ih =>
    obtain ⟨name, expression⟩ := field
    obtain ⟨front, first, firstBound⟩ :=
      bindParams_bound engine handle expression.arguments.params session
    simp only [bindExpressions, bindArguments, Step.run_bind, Step.run_lift, Step.run_changeOwn]
    rcases answered : (bindParams engine handle expression.arguments.params).run session with
      ⟨failure | _, middle⟩
    · rw [answered] at first firstBound
      exact ⟨front, first, firstBound.append_of_error rfl _, fun fine => by cases fine⟩
    · rw [answered] at first firstBound
      obtain ⟨back, second, secondBound, left⟩ := ih (Fields.without name literals) middle
      refine ⟨front ++ back, first.andThen second, firstBound.append rfl secondBound, ?_⟩
      intro fine
      rw [left fine, Fields.without, List.filter_filter]
      apply List.filter_congr
      intro field _
      rw [Bool.eq_iff_iff]
      simp [and_comm]

/-- A list is bound on the way from one session to another, each with the holder of
its blobs.  Every blob that is offered is held, bound or refused. -/
structure Binds (handle : Handle) (bindings : List Binding) (start : BlobHolder × Session σ)
    (outcome : Except Failure Unit) (events : List Event) (stop : BlobHolder × Session σ) :
    Prop where
  passes : Passes engine start.2 outcome events stop.2
  bound : Bound handle bindings events outcome
  held : stop.1.blobs = start.1.blobs ++ (requests events).filterMap Request.blob?

namespace Binds

variable {engine : Engine σ} {handle : Handle} {bindings more : List Binding}
  {start middle stop : BlobHolder × Session σ} {outcome : Except Failure Unit}
  {front back : List Event}

theorem of_inline {session later : Session σ}
    (passes : Passes engine session outcome front later)
    (bound : Bound handle bindings front outcome)
    (inline : ∀ binding ∈ bindings, binding.blob? = none) (holder : BlobHolder) :
    Binds engine handle bindings (holder, session) outcome front (holder, later) where
  passes := passes
  bound := bound
  held := by rw [bound.blobs_eq_nil inline, List.append_nil]

theorem andThen (first : Binds engine handle bindings start (.ok ()) front middle)
    (second : Binds engine handle more middle outcome back stop) :
    Binds engine handle (bindings ++ more) start outcome (front ++ back) stop where
  passes := first.passes.andThen second.passes
  bound := first.bound.append rfl second.bound
  held := by
    rw [second.held, first.held, requests_append, List.filterMap_append, List.append_assoc]

theorem of_error {failure : Failure}
    (first : Binds engine handle bindings start (.error failure) front stop)
    (more : List Binding) :
    Binds engine handle (bindings ++ more) start (.error failure) front stop where
  passes := first.passes
  bound := first.bound.append_of_error rfl more
  held := first.held

end Binds

theorem bindLiteral_binds (handle : Handle) (info : ColumnInformation)
    (placeholder field : String) (value : Value) (start : BlobHolder × Session σ) :
    Binds engine handle [Binding.ofLiteral info placeholder field value] start
      ((bindLiteral engine handle info placeholder field value).run start).1
      [(Binding.ofLiteral info placeholder field value).event handle
        ((bindLiteral engine handle info placeholder field value).run start).1]
      ((bindLiteral engine handle info placeholder field value).run start).2 := by
  obtain ⟨holder, session⟩ := start
  rw [Binding.ofLiteral_eq, bindLiteral]
  cases blobOf? info field value with
  | some bytes =>
    simp only [Step.run_bind, Step.run_changeOwn, Step.run_lift]
    exact ⟨passes_bindBlob engine handle placeholder bytes session, .single _ _, rfl⟩
  | none =>
    simp only [Step.run_lift]
    refine .of_inline (passes_bindValue engine handle placeholder value session) (.single _ _) ?_ _
    intro binding listed
    rw [List.mem_singleton.mp listed]
    rfl

theorem bindLiteralsFrom_binds (handle : Handle) (info : ColumnInformation)
    (placeholder : Nat → String) (number : Nat) (literals : Fields Value)
    (start : BlobHolder × Session σ) :
    ∃ events, Binds engine handle (Binding.ofLiteralsFrom info placeholder number literals) start
      ((bindLiteralsFrom engine handle info placeholder number literals).run start).1 events
      ((bindLiteralsFrom engine handle info placeholder number literals).run start).2 := by
  induction literals generalizing number start with
  | nil => exact ⟨[], .pure start.2 (), .done, by simp [bindLiteralsFrom]⟩
  | cons field rest ih =>
    obtain ⟨name, value⟩ := field
    have first := bindLiteral_binds engine handle info (placeholder number) name value start
    simp only [bindLiteralsFrom, Step.run_bind, Binding.ofLiteralsFrom, List.zipIdx_cons,
      List.map_cons]
    rcases answered : (bindLiteral engine handle info (placeholder number) name value).run start
      with ⟨failure | _, middle⟩
    · rw [answered] at first
      exact ⟨_, first.of_error _⟩
    · rw [answered] at first
      obtain ⟨events, binds⟩ := ih (number + 1) middle
      exact ⟨_, first.andThen binds⟩

def releaseAfter (handle : Handle) (events : List Event) : List Event :=
  if (requests events).filterMap Request.blob? = [] then []
  else [.exchange (.releaseBlobs handle) ()]

theorem eq_of_mem_releaseAfter {handle : Handle} {events : List Event} {request : Request}
    (asked : request ∈ requests (releaseAfter handle events)) :
    request = .releaseBlobs handle := by
  unfold releaseAfter at asked
  split at asked
  · cases asked
  · exact List.mem_singleton.mp asked

theorem releaseHeld_leads (handle : Handle) (events : List Event) (holder : BlobHolder)
    (held : holder.blobs = (requests events).filterMap Request.blob?) (session : Session σ) :
    ∃ later, (releaseHeld engine handle holder).run session = (.ok (), later) ∧
      Leads engine session (releaseAfter handle events) later := by
  unfold releaseHeld releaseAfter
  rw [← held, BlobHolder.isEmpty]
  by_cases none : holder.blobs = []
  · rw [none]
    exact ⟨session, rfl, .refl session⟩
  · rw [if_neg none, if_neg (by simpa using none)]
    exact ⟨_, rfl, .ask session (.releaseBlobs handle)⟩

end Session

end SqlBridge
