import SqlBridge.Session.Script
import SqlBridge.Proofs.UpdateRun

/-!
# The statement of an update and what is bound to it

Every placeholder in the text of an executed update is bound the value of its
literal.  The identity column of the table is kept out of the SET clause as
far as literals go; an expression may still assign it.
-/

set_option autoImplicit false

namespace SqlBridge

open Transcript

variable {σ : Type}

def Event.refusesBinding : Event → Bool
  | exchange (.bindValue _ _ _) (.error _) => true
  | exchange (.bindBlob _ _ _) (.error _) => true
  | _ => false

theorem Binding.refusesBinding_event (handle : Handle) (failure : Failure) (binding : Binding) :
    (binding.event handle (.error failure)).refusesBinding = true := by
  cases binding <;> rfl

namespace Update

/-- All that is ever prepared is the statement of the planned assignments. -/
theorem text_of_prepare_mem (engine : Engine σ) (update : Update) (info : ColumnInformation)
    (session : Session σ)
    (reported : (engine.answer (.columnInformation update.table) session.state).1 = .ok info)
    {handle : Handle} {sql : String} {options : PrepareOptions}
    (asked : .prepare handle sql options ∈
      requests (((update.execute engine).run session).2.since session)) :
    sql = update.textOf engine.dialect (update.assignments info) ∧
      update.assignments info ≠ [] := by
  obtain ⟨silent, prepares⟩ := execute_requests engine update info session reported
  by_cases nothing : update.assignments info = []
  · rcases silent nothing with none | one
    · rw [none] at asked
      cases asked
    · rw [one, List.mem_singleton] at asked
      cases asked
  · obtain ⟨handle, rest, all, others⟩ := prepares nothing
    rw [all, List.mem_cons, List.mem_cons] at asked
    rcases asked with schema | same | later
    · cases schema
    · cases same
      exact ⟨statementText_eq update engine.dialect info, nothing⟩
    · have stage := others _ later
      simp [Request.stage] at stage

theorem Assigning.bound_of_accepted {update : Update} {dialect : Dialect}
    {info : ColumnInformation} {outcome : Except Failure (Option Handle)}
    {events release : List Event} (assigning : Assigning update dialect info outcome events release)
    (accepted : ∀ event ∈ events, event.refusesBinding = false)
    {handle : Handle} {sql : String} {options : PrepareOptions}
    (prepared : .exchange (.prepare handle sql options) (.ok ()) ∈ events ++ release) :
    ∃ rest, requests (events ++ release) = .prepare handle sql options ::
        ((update.bindings dialect info).map (Binding.request handle) ++
          Statement.modeRequests handle update.options.mode? ++ .run handle none :: rest) ∧
      ∀ request ∈ rest, request.stage ≠ .bind := by
  rcases assigning.run_cases with ⟨_, failure, _, refusal, _⟩ | ⟨other, rest, bound, after, _⟩
  · rcases refusal with ⟨_, _, single⟩ | ⟨binding, tried⟩
    · rw [single, List.mem_singleton] at prepared
      cases prepared
    · have refused := accepted _ tried
      rw [Binding.refusesBinding_event] at refused
      cases refused
  · obtain ⟨_, _, first, others⟩ := assigning.requests_eq
    have listed := mem_requests prepared
    rw [first, List.mem_cons] at listed
    rcases listed with same | later
    · rw [first, ← same] at bound
      cases (List.cons.inj bound).1
      refine ⟨rest, by rw [first, ← same, bound], ?_⟩
      intro request later binds
      simpa [binds] using after request later
    · have stage := others _ later
      simp [Request.stage] at stage

/-- The statement numbers its literals as they are bound: where no binding is
refused, the handle is bound exactly what the placeholders of its text stand for,
and then it is run. -/
theorem execute_binds_as_numbered (engine : Engine σ) (update : Update) (info : ColumnInformation)
    (session : Session σ)
    (reported : (engine.answer (.columnInformation update.table) session.state).1 = .ok info)
    (accepted : ∀ event ∈ ((update.execute engine).run session).2.since session,
      event.refusesBinding = false) :
    let events := ((update.execute engine).run session).2.since session
    (update.assignments info ≠ [] → ∃ handle sql, .prepare handle sql {} ∈ requests events) ∧
    (∀ handle sql options, .prepare handle sql options ∈ requests events →
      sql = update.textOf engine.dialect (update.assignments info)) ∧
    ∀ handle sql options, .exchange (.prepare handle sql options) (.ok ()) ∈ events →
      ∃ rest, requests events =
          .columnInformation update.table :: .prepare handle sql options ::
            ((update.bindings engine.dialect info).map (Binding.request handle) ++
              Statement.modeRequests handle update.options.mode? ++ .run handle none :: rest) ∧
        ∀ request ∈ rest, request.stage ≠ .bind := by
  intro events
  refine ⟨?_, ?_, ?_⟩
  · intro something
    obtain ⟨handle, rest, all, _⟩ :=
      (execute_requests engine update info session reported).2 something
    refine ⟨handle, update.statementText engine.dialect info, ?_⟩
    rw [all]
    exact List.mem_cons_of_mem _ List.mem_cons_self
  · intro handle sql options asked
    exact (text_of_prepare_mem engine update info session reported asked).1
  · intro handle sql options prepared
    have something :=
      (text_of_prepare_mem engine update info session reported (mem_requests prepared)).2
    have sets : assignsNothing update.literals update.expressions = false := by
      rw [← Bool.not_eq_true]
      intro unset
      exact something (assignments_eq_nil_of_assignsNothing unset info)
    obtain ⟨outcome, emissions, front, release, all, course⟩ :=
      execute_of_reported engine update info session sets reported
    have late : .exchange (.prepare handle sql options) (.ok ()) ∈ front ++ release := by
      simp only [events, all, List.mem_cons] at prepared
      rcases prepared with schema | prepared
      · cases schema
      rcases List.mem_append.mp prepared with notice | late
      · exact absurd notice (exchange_notMem_told _ _ _)
      · exact late
    have fine : ∀ event ∈ front, event.refusesBinding = false := by
      intro event during
      apply accepted event
      simp [all, during]
    rcases course with ⟨nothing, _⟩ | ⟨_, assigning⟩
    · exact absurd nothing something
    · obtain ⟨rest, bound, after⟩ := assigning.bound_of_accepted fine late
      refine ⟨rest, ?_, after⟩
      simp only [events, all]
      rw [requests_exchange, requests_append, requests_told, List.nil_append, bound]

def users : ColumnInformation where
  identity := some "id"
  blobs := ["photo"]

def visitors : Session Script.World where
  state := { tables := [("users", users)] }

/-- The literals name the identity column and an overridden field. -/
def visit : Update where
  table := "users"
  literals := [("id", .int 1), ("name", .text "Ann"), ("visits", .int 0), ("photo", .text "P")]
  expressions := [("visits", ⟨"visits + :step", ⟨[⟨":step", .int 1⟩]⟩⟩)]
  condition := some (Conjunction.toCondition ⟨[.compare "id" .eq (.int 7)]⟩)

theorem execute_binds_as_numbered_visit :
    ∃ rest, requests (((visit.execute (Script.engine {})).run visitors).2.since visitors) =
        [.columnInformation "users",
          .prepare ⟨0⟩ ("UPDATE \x7busers\x7d SET [visits]=visits + :step, " ++
            "[name]=:placeholder_0, [photo]=:placeholder_1\n" ++
              "WHERE [id] = :db_condition_placeholder_0") {},
          .bindValue ⟨0⟩ ":step" (.int 1), .bindValue ⟨0⟩ ":placeholder_0" (.text "Ann"),
          .bindBlob ⟨0⟩ ":placeholder_1" "P".toUTF8,
          .bindValue ⟨0⟩ ":db_condition_placeholder_0" (.int 7), .run ⟨0⟩ none] ++ rest ∧
      ∀ request ∈ rest, request.stage ≠ .bind := by
  have text : visit.statementText {} users =
      "UPDATE \x7busers\x7d SET [visits]=visits + :step, " ++
        "[name]=:placeholder_0, [photo]=:placeholder_1\n" ++
          "WHERE [id] = :db_condition_placeholder_0" := by decide +kernel
  have plan : visit.bindings (Script.engine {}).dialect users =
      [.value ":step" (.int 1), .value ":placeholder_0" (.text "Ann"),
        .blob ":placeholder_1" "P".toUTF8, .value ":db_condition_placeholder_0" (.int 7)] := by
    decide +kernel
  have prepared : (((visit.execute (Script.engine {})).run visitors).2.since visitors)[2]? =
      some (.exchange (.prepare ⟨0⟩ (visit.statementText {} users) {}) (.ok ())) := by rfl
  obtain ⟨_, _, bound⟩ := execute_binds_as_numbered (Script.engine {}) visit users visitors rfl
    (by decide +kernel)
  obtain ⟨rest, asked, after⟩ := bound _ _ _ (List.mem_of_getElem? prepared)
  rw [text, plan] at asked
  exact ⟨rest, asked, after⟩

/-! ## The identity column -/

theorem identity_notMem_assignedLiterals (update : Update) {info : ColumnInformation}
    {identity : String} (known : info.identity = some identity) :
    identity ∉ Fields.names (update.assignedLiterals info) := by
  intro assigned
  obtain ⟨field, listed, rfl⟩ := List.mem_map.mp assigned
  have free := (List.mem_filter.mp listed).2
  simp [known] at free

def itemsOf (update : Update) (expressions : Fields Expression) (others : Fields Value) :
    List Assignment :=
  expressions.map (fun field => ⟨field.1, field.2.sql⟩) ++
    others.zipIdx.map fun numbered => ⟨numbered.1.1, update.placeholder numbered.2⟩

theorem map_field_itemsOf (update : Update) (expressions : Fields Expression)
    (others : Fields Value) :
    (update.itemsOf expressions others).map Assignment.field =
      Fields.names expressions ++ Fields.names others := by
  have numbered : others.zipIdx.map (Prod.fst ∘ Prod.fst) = Fields.names others := by
    rw [← List.map_map, List.zipIdx_map_fst, Fields.names]
  rw [← numbered, itemsOf, List.map_append, List.map_map, List.map_map]
  rfl

theorem map_field_assignments (update : Update) (info : ColumnInformation) :
    (update.assignments info).map Assignment.field =
      Fields.names update.expressions ++ Fields.names (update.assignedLiterals info) :=
  update.map_field_itemsOf update.expressions (update.assignedLiterals info)

theorem exists_assignment_iff (update : Update) (info : ColumnInformation) (name : String) :
    (∃ assignment ∈ update.assignments info, assignment.field = name) ↔
      name ∈ Fields.names update.expressions ∨
        name ∈ Fields.names (update.assignedLiterals info) := by
  rw [← List.mem_append, ← map_field_assignments, List.mem_map]

/-- Literal writes to the identity column are always dropped, expressions never: the
column is assigned exactly where an expression names it. -/
theorem execute_assigns_identity_iff (engine : Engine σ) (update : Update)
    (info : ColumnInformation) (session : Session σ) (identity : String)
    (reported : (engine.answer (.columnInformation update.table) session.state).1 = .ok info)
    (known : info.identity = some identity) :
    let asked := requests (((update.execute engine).run session).2.since session)
    (∀ handle sql options, .prepare handle sql options ∈ asked →
      sql = update.textOf engine.dialect (update.assignments info)) ∧
    ((∃ handle sql options, .prepare handle sql options ∈ asked ∧
        ∃ assignment ∈ update.assignments info, assignment.field = identity) ↔
      identity ∈ Fields.names update.expressions) := by
  intro asked
  refine ⟨?_, ?_⟩
  · intro handle sql options prepared
    exact (text_of_prepare_mem engine update info session reported prepared).1
  · have spared := update.identity_notMem_assignedLiterals known
    constructor
    · rintro ⟨_, _, _, _, assigned⟩
      exact ((update.exists_assignment_iff info identity).mp assigned).resolve_right spared
    · intro named
      have assigned := (update.exists_assignment_iff info identity).mpr (.inl named)
      have something : update.assignments info ≠ [] := by
        obtain ⟨assignment, listed, _⟩ := assigned
        exact List.ne_nil_of_mem listed
      obtain ⟨handle, rest, all, _⟩ :=
        (execute_requests engine update info session reported).2 something
      refine ⟨handle, update.statementText engine.dialect info, {}, ?_, assigned⟩
      simp only [asked, all]
      exact List.mem_cons_of_mem _ List.mem_cons_self

/-- An expression on the identity column beside literals. -/
def renumber : Update where
  table := "users"
  literals := [("id", .int 1), ("name", .text "Bob")]
  expressions := [("id", ⟨"id + 1", .empty⟩)]

theorem execute_assigns_identity_iff_renumber :
    ∃ handle sql options, .prepare handle sql options ∈
      requests (((renumber.execute (Script.engine {})).run visitors).2.since visitors) ∧
      ∃ assignment ∈ renumber.assignments users, assignment.field = "id" :=
  (execute_assigns_identity_iff (Script.engine {}) renumber users visitors "id" rfl rfl).2.mpr
    (by decide)

/-- The statement that is prepared assigns the identity column. -/
theorem renumber_assigns_identity :
    users.identity = some "id" ∧
      .prepare ⟨0⟩ "UPDATE \x7busers\x7d SET [id]=id + 1, [name]=:placeholder_0" {} ∈
        requests (((renumber.execute (Script.engine {})).run visitors).2.since visitors) := by
  decide +kernel

end Update

end SqlBridge
