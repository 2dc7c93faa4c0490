import SqlBridge.Proofs.UpdateStatement

/-!
# Large objects of an update

The blobs that an execution offers to the engine are released once, by its last
request, whatever has become of the run.  Bytes in a literal are always offered
as a blob; bytes in the arguments of an expression or of the condition are bound
inline.
-/

set_option autoImplicit false

namespace SqlBridge

open Transcript

variable {σ : Type}

/-- All that a running update binds is planned, and bound to the handle that it runs. -/
theorem Ran.binding_of_stage {handle : Handle} {bindings : List Binding} {mode : Option FetchMode}
    {events : List Event} {outcome : Except Failure Unit}
    (ran : Ran handle bindings mode events outcome) {request : Request}
    (asked : request ∈ requests events) (binds : request.stage = .bind) :
    ∃ binding ∈ bindings, request = binding.request handle := by
  cases ran with
  | unbound failure bound =>
    obtain ⟨binding, planned, same⟩ := List.mem_map.mp (bound.requests_prefix.subset asked)
    exact ⟨binding, planned, same.symm⟩
  | ran outcome same columns =>
    rw [requests_append, Binding.requests_map_event, same, List.mem_append] at asked
    rcases asked with bound | later
    · obtain ⟨binding, planned, same⟩ := List.mem_map.mp bound
      exact ⟨binding, planned, same.symm⟩
    · exact absurd binds (Statement.stage_ne_bind_of_mem_run columns later)

/-! ## The release -/

/-- What comes of blobs: none is offered and none released, or they are offered to
one handle, which is then asked to release them. -/
inductive Releases (asked : List Request) : List Event → Prop where
  | nothing (inline : ∀ request ∈ asked, request.blob? = none) : Releases asked []
  | once (handle : Handle) (offered : ∃ request ∈ asked, request.blob? ≠ none)
      (same : ∀ other placeholder bytes, .bindBlob other placeholder bytes ∈ asked →
        other = handle) :
      Releases asked [.exchange (.releaseBlobs handle) ()]

theorem Releases.cons {asked : List Request} {release : List Event}
    (releases : Releases asked release) {request : Request} (other : request.stage ≠ .bind) :
    Releases (request :: asked) release := by
  cases releases with
  | nothing inline =>
    apply Releases.nothing
    intro first listed
    rcases List.mem_cons.mp listed with rfl | later
    · exact Request.blob?_of_stage other
    · exact inline first later
  | once handle offered same =>
    obtain ⟨offer, listed, some⟩ := offered
    refine .once handle ⟨offer, List.mem_cons_of_mem request listed, some⟩ ?_
    intro offeredTo placeholder bytes listed
    rcases List.mem_cons.mp listed with rfl | later
    · exact absurd rfl other
    · exact same offeredTo placeholder bytes later

theorem Ran.releases {handle : Handle} {bindings : List Binding} {mode : Option FetchMode}
    {events : List Event} {outcome : Except Failure Unit}
    (ran : Ran handle bindings mode events outcome) :
    Releases (requests events) (Session.releaseAfter handle events) := by
  unfold Session.releaseAfter
  split
  next none => exact .nothing (List.filterMap_eq_nil_iff.mp none)
  next some =>
    obtain ⟨bytes, held⟩ := List.exists_mem_of_ne_nil _ some
    obtain ⟨request, asked, offers⟩ := List.mem_filterMap.mp held
    refine .once handle ⟨request, asked, by simp [offers]⟩ ?_
    intro other placeholder bytes asked
    obtain ⟨binding, _, same⟩ := ran.binding_of_stage asked rfl
    cases binding with
    | value _ _ => cases same
    | blob _ _ => cases same; rfl

namespace Update

theorem Course.releases {update : Update} {dialect : Dialect}
    {outcome : Except Failure (Option Handle)} {events release : List Event}
    (course : Course update dialect outcome events release) :
    Releases (requests events) release ∧ ∀ request ∈ requests events, request.stage ≠ .release := by
  cases course with
  | unknown failure => exact ⟨.nothing (by simp [Request.blob?]), by simp [Request.stage]⟩
  | nothingLeft info emissions nothing =>
    exact ⟨.nothing (by simp [Request.blob?]), by simp [Request.stage]⟩
  | assigning info emissions something assigning =>
    rw [List.cons_append, requests_exchange, requests_append, requests_told, List.nil_append]
    cases assigning with
    | unprepared handle failure =>
      exact ⟨.nothing (by simp [Request.blob?]), by simp [Request.stage]⟩
    | prepared handle ran =>
      rw [requests_exchange]
      refine ⟨(ran.releases.cons (by simp [Request.stage])).cons (by simp [Request.stage]), ?_⟩
      intro request asked
      rcases List.mem_cons.mp asked with rfl | asked
      · simp [Request.stage]
      rcases List.mem_cons.mp asked with rfl | during
      · simp [Request.stage]
      · intro released
        simpa [released] using ran.stage_of_mem during

/-- Where a blob was offered, bound or refused, the last request of an execution
releases the blobs of that handle, and it is the only one to do so. -/
theorem execute_releases_blobs (engine : Engine σ) (update : Update) (session : Session σ) :
    let asked := requests (((update.execute engine).run session).2.since session)
    ((∀ request ∈ asked, request.blob? = none) → ∀ request ∈ asked, request.stage ≠ .release) ∧
    ∀ handle placeholder bytes, .bindBlob handle placeholder bytes ∈ asked →
      ∃ before, asked = before ++ [.releaseBlobs handle] ∧
        ∀ request ∈ before, request.stage ≠ .release := by
  by_cases unset : assignsNothing update.literals update.expressions = true
  · rw [run_execute_of_assignsNothing engine update session unset]
    have silent := (Session.Leads.refl session : Session.Leads engine _ _ _).since_eq
    simp [silent]
  obtain ⟨outcome, events, release, middle, later, passes, released, course, ran⟩ :=
    execute_course engine update session (by simpa using unset)
  rw [ran, (passes.toLeads.trans released).since_eq]
  simp only [requests_append]
  obtain ⟨releases, unreleased⟩ := course.releases
  cases releases with
  | nothing inline =>
    rw [requests_nil, List.append_nil]
    refine ⟨fun _ => unreleased, ?_⟩
    intro handle placeholder bytes offered
    cases inline _ offered
  | once handle offered same =>
    obtain ⟨offer, listed, some⟩ := offered
    rw [requests_exchange, requests_nil]
    refine ⟨fun inline => absurd (inline offer (List.mem_append_left _ listed)) some, ?_⟩
    intro other placeholder bytes asked
    rcases List.mem_append.mp asked with before | last
    · exact ⟨_, by rw [same other placeholder bytes before], unreleased⟩
    · cases List.mem_singleton.mp last

/-- Two files of which the engine refuses the second. -/
def archive : Update where
  table := "files"
  literals := [("head", .bytes "H".toUTF8), ("body", .bytes "B".toUTF8), ("name", .text "a")]

def fullDisk : Session Script.World where
  state := { handles := [{ blobFault := some ⟨":placeholder_1", .bind ":placeholder_1" "full"⟩ }] }

theorem execute_releases_blobs_archive :
    ((archive.execute (Script.engine {})).run fullDisk).1 = .error (.bind ":placeholder_1" "full") ∧
    ∃ before, requests (((archive.execute (Script.engine {})).run fullDisk).2.since fullDisk) =
        before ++ [.releaseBlobs ⟨0⟩] ∧ ∀ request ∈ before, request.stage ≠ .release := by
  refine ⟨rfl, ?_⟩
  exact (execute_releases_blobs (Script.engine {}) archive fullDisk).2 ⟨0⟩ ":placeholder_1"
    "B".toUTF8 (by decide +kernel)

/-! ## Bytes -/

def arguments (update : Update) (dialect : Dialect) : List Param :=
  (update.expressions.flatMap fun field => field.2.arguments.params) ++
    ((update.compiledCondition dialect).map fun compiled => compiled.arguments.params).getD []

theorem ofLiteral_ne_bytes (info : ColumnInformation) (placeholder field other : String)
    (content : Value) (bytes : ByteArray) :
    Binding.ofLiteral info placeholder field content ≠ .value other (.bytes bytes) := by
  cases content with
  | text text =>
    simp only [Binding.ofLiteral]
    split <;> simp
  | _ => simp [Binding.ofLiteral]

theorem value_mem_map_ofParam (params : List Param) (placeholder : String) (content : Value) :
    .value placeholder content ∈ params.map Binding.ofParam ↔ ⟨placeholder, content⟩ ∈ params := by
  constructor
  · intro listed
    obtain ⟨param, present, same⟩ := List.mem_map.mp listed
    cases same
    exact present
  · intro present
    exact List.mem_map.mpr ⟨_, present, rfl⟩

/-- A literal's bytes are never bound as a value, and an argument's always are. -/
theorem value_bytes_mem_bindings_iff (update : Update) (dialect : Dialect)
    (info : ColumnInformation) (placeholder : String) (bytes : ByteArray) :
    .value placeholder (.bytes bytes) ∈ update.bindings dialect info ↔
      ⟨placeholder, .bytes bytes⟩ ∈ update.arguments dialect := by
  have literal : .value placeholder (.bytes bytes) ∉
      Binding.ofLiteralsFrom info update.placeholder 0 (update.assignedLiterals info) := by
    intro listed
    obtain ⟨numbered, _, same⟩ := List.mem_map.mp listed
    exact ofLiteral_ne_bytes info _ _ _ _ _ same
  have condition : Binding.ofCondition (update.compiledCondition dialect) =
      (((update.compiledCondition dialect).map fun compiled => compiled.arguments.params).getD
        []).map Binding.ofParam := by
    cases update.compiledCondition dialect <;> rfl
  rw [bindings, List.mem_append, List.mem_append, condition, Binding.ofExpressions,
    ← List.map_flatMap, value_mem_map_ofParam, value_mem_map_ofParam, arguments, List.mem_append]
  simp [literal]

theorem Course.binding_of_stage {update : Update} {dialect : Dialect}
    {outcome : Except Failure (Option Handle)} {events release : List Event}
    (course : Course update dialect outcome events release) {request : Request}
    (asked : request ∈ requests (events ++ release)) (binds : request.stage = .bind) :
    ∃ info handle, ∃ binding ∈ update.bindings dialect info, request = binding.request handle := by
  rw [requests_append, List.mem_append] at asked
  rcases asked with asked | released
  · cases course with
    | unknown failure =>
      cases List.mem_singleton.mp asked
      cases binds
    | nothingLeft info emissions nothing =>
      rw [requests_exchange, requests_told] at asked
      cases List.mem_singleton.mp asked
      cases binds
    | assigning info emissions something assigning =>
      rw [List.cons_append, requests_exchange, requests_append, requests_told, List.nil_append,
        List.mem_cons] at asked
      rcases asked with rfl | asked
      · cases binds
      cases assigning with
      | unprepared handle failure =>
        cases List.mem_singleton.mp asked
        cases binds
      | prepared handle ran =>
        rw [requests_exchange, List.mem_cons] at asked
        rcases asked with rfl | during
        · cases binds
        · exact ⟨info, handle, ran.binding_of_stage during binds⟩
  · cases course.releases.1 with
    | nothing inline => cases released
    | once handle offered same =>
      cases List.mem_singleton.mp released
      cases binds

/-- Where no binding is refused, a prepared handle is bound all that is planned. -/
theorem Course.bound_of_accepted {update : Update} {dialect : Dialect}
    {outcome : Except Failure (Option Handle)} {events release : List Event}
    (course : Course update dialect outcome events release)
    (accepted : ∀ event ∈ events ++ release, event.refusesBinding = false)
    {handle : Handle} {sql : String} {options : PrepareOptions}
    (prepared : .exchange (.prepare handle sql options) (.ok ()) ∈ events ++ release) :
    ∃ info rest, events = .exchange (.columnInformation update.table) (.ok info) :: rest ∧
      ∀ binding ∈ update.bindings dialect info,
        binding.request handle ∈ requests (events ++ release) := by
  cases course with
  | unknown failure => simp at prepared
  | nothingLeft info emissions nothing => simp [exchange_notMem_told] at prepared
  | @assigning info emissions _ late _ something assigning =>
    have fine : ∀ event ∈ late, event.refusesBinding = false := by
      intro event during
      apply accepted event
      simp [during]
    have present : .exchange (.prepare handle sql options) (.ok ()) ∈ late ++ release := by
      simpa [exchange_notMem_told] using prepared
    obtain ⟨rest, bound, _⟩ := assigning.bound_of_accepted fine present
    refine ⟨info, told emissions ++ late, rfl, ?_⟩
    intro binding planned
    have listed : binding.request handle ∈ requests (late ++ release) := by
      rw [bound]
      simp [List.mem_map_of_mem planned]
    rw [List.append_assoc, List.cons_append, requests_exchange, requests_append]
    exact List.mem_cons_of_mem _ (List.mem_append_right _ listed)

/-- Bytes are bound inline only as an argument, and every argument is bound inline: on an
engine that refuses no binding, bytes stay out of line exactly when no argument is bytes.
Literals of bytes always go over as blobs. -/
theorem execute_binds_argument_bytes_inline (engine : Engine σ) (update : Update)
    (session : Session σ) :
    let events := ((update.execute engine).run session).2.since session
    (∀ handle placeholder bytes,
      .bindValue handle placeholder (.bytes bytes) ∈ requests events →
        ⟨placeholder, .bytes bytes⟩ ∈ update.arguments engine.dialect) ∧
    ((∀ event ∈ events, event.refusesBinding = false) →
      ∀ handle sql options, .exchange (.prepare handle sql options) (.ok ()) ∈ events →
        (∀ placeholder bytes, ⟨placeholder, .bytes bytes⟩ ∈ update.arguments engine.dialect →
          .bindValue handle placeholder (.bytes bytes) ∈ requests events) ∧
        ∀ info, (engine.answer (.columnInformation update.table) session.state).1 = .ok info →
          ∀ number field bytes,
            (update.assignedLiterals info)[number]? = some (field, .bytes bytes) →
              .bindBlob handle (update.placeholder number) bytes ∈ requests events) := by
  intro events
  by_cases unset : assignsNothing update.literals update.expressions = true
  · have silent : events = [] := by
      simp only [events, run_execute_of_assignsNothing engine update session unset]
      exact (Session.Leads.refl session : Session.Leads engine _ _ _).since_eq
    simp [silent]
  obtain ⟨outcome, front, release, middle, later, passes, released, course, ran⟩ :=
    execute_course engine update session (by simpa using unset)
  have all : events = front ++ release := by
    simp only [events, ran]
    exact (passes.toLeads.trans released).since_eq
  rw [all]
  refine ⟨?_, ?_⟩
  · intro handle placeholder bytes asked
    obtain ⟨info, other, binding, planned, same⟩ := course.binding_of_stage asked rfl
    cases binding with
    | value name content =>
      cases same
      exact (value_bytes_mem_bindings_iff update engine.dialect info _ _).mp planned
    | blob name content => cases same
  · intro accepted handle sql options prepared
    obtain ⟨info, rest, first, bound⟩ := course.bound_of_accepted accepted prepared
    refine ⟨?_, ?_⟩
    · intro placeholder bytes argument
      exact bound (.value placeholder (.bytes bytes))
        ((value_bytes_mem_bindings_iff update engine.dialect info _ _).mpr argument)
    · intro known reported number field bytes literal
      have answered := passes.genuine
      rw [first, Genuine, Event.Genuine, reported] at answered
      cases answered.1
      have numbered : ((field, .bytes bytes), number) ∈
          (update.assignedLiterals info).zipIdx :=
        List.mem_zipIdx_iff_getElem?.mpr literal
      have planned := List.mem_map_of_mem (f := fun numbered =>
        Binding.ofLiteral info (update.placeholder numbered.2) numbered.1.1 numbered.1.2) numbered
      apply bound (.blob (update.placeholder number) bytes)
      exact List.mem_append_left _ (List.mem_append_right _ planned)

/-- Byte strings in a literal, in an expression and in the condition. -/
def stamp : Update where
  table := "files"
  literals := [("body", .bytes "B".toUTF8)]
  expressions := [("seal", ⟨"CHECKSUM(:key)", ⟨[⟨":key", .bytes "K".toUTF8⟩]⟩⟩)]
  condition := some (Conjunction.toCondition ⟨[.compare "digest" .eq (.bytes "D".toUTF8)]⟩)

def files : Session Script.World where
  state := {}

theorem execute_binds_argument_bytes_inline_stamp :
    let asked := requests (((stamp.execute (Script.engine {})).run files).2.since files)
    .bindValue ⟨0⟩ ":key" (.bytes "K".toUTF8) ∈ asked ∧
      .bindBlob ⟨0⟩ ":placeholder_0" "B".toUTF8 ∈ asked := by
  have prepared : (((stamp.execute (Script.engine {})).run files).2.since files)[1]? =
      some (.exchange (.prepare ⟨0⟩ (stamp.statementText {} {}) {}) (.ok ())) := by rfl
  obtain ⟨inline, offered⟩ := (execute_binds_argument_bytes_inline (Script.engine {}) stamp
    files).2 (by decide +kernel) ⟨0⟩ _ _ (List.mem_of_getElem? prepared)
  exact ⟨inline ":key" "K".toUTF8 (by decide +kernel),
    offered {} rfl 0 "body" "B".toUTF8 rfl⟩

/-- Not all bytes are kept from being bound as values: those of the expression and those
of the condition are bound so. -/
theorem stamp_binds_bytes_inline :
    let asked := requests (((stamp.execute (Script.engine {})).run files).2.since files)
    ¬ (∀ handle placeholder content, .bindValue handle placeholder content ∈ asked →
      content.isBlob = false) ∧
    .bindValue ⟨0⟩ ":db_condition_placeholder_0" (.bytes "D".toUTF8) ∈ asked := by
  intro asked
  refine ⟨?_, by decide +kernel⟩
  intro outOfLine
  have inline := outOfLine ⟨0⟩ ":key" (.bytes "K".toUTF8) (by decide +kernel)
  cases inline

end Update

end SqlBridge
