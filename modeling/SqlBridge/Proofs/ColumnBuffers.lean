import SqlBridge.Proofs.FailedExecution

/-!
# The buffers of a result

The columns of a result are looked at one after the other.  A column of a known kind is given the
empty buffer of that kind, and a column of no known kind is passed over.  The first column that fails
ends this: its failure is the answer, and what is behind it is not looked at.
-/

set_option autoImplicit false

namespace SqlBridge

open Transcript

variable {σ : Type}

namespace ColumnKind

inductive EmptyBuffer : ColumnKind → OutputBuffer → Prop where
  | integer : EmptyBuffer .integer (.integer none)
  | utf8Text : EmptyBuffer .utf8Text (.text .utf8 none)
  | binary : EmptyBuffer .binary (.lob .binary .empty)

theorem buffer?_eq_some_iff (kind : ColumnKind) (buffer : OutputBuffer) :
    kind.buffer? = some buffer ↔ EmptyBuffer kind buffer := by
  constructor
  · intro given
    cases kind with
    | integer => cases given; exact .integer
    | utf8Text => cases given; exact .utf8Text
    | binary => cases given; exact .binary
    | unclassified => cases given
  · intro empty
    cases empty <;> rfl

end ColumnKind

namespace Request

def lookedAt? : Request → Option (Handle × Nat)
  | .columnMeta handle index => some (handle, index)
  | _ => none

def buffered? : Request → Option (Handle × Nat × OutputBuffer)
  | .bindColumn handle index buffer => some (handle, index, buffer)
  | _ => none

end Request

namespace Transcript

def lookedAt (events : List Event) : List (Handle × Nat) :=
  (requests events).filterMap Request.lookedAt?

def buffered (events : List Event) : List (Handle × Nat × OutputBuffer) :=
  (requests events).filterMap Request.buffered?

theorem lookedAt_append (front back : List Event) :
    lookedAt (front ++ back) = lookedAt front ++ lookedAt back := by
  rw [lookedAt, requests_append, List.filterMap_append, lookedAt, lookedAt]

theorem buffered_append (front back : List Event) :
    buffered (front ++ back) = buffered front ++ buffered back := by
  rw [buffered, requests_append, List.filterMap_append, buffered, buffered]

end Transcript

namespace Session

/-! ## One column -/

def columnEvents (handle : Handle) (index : Nat) (report : ColumnMeta) : List Event :=
  .exchange (.columnMeta handle index) (.ok report) ::
    match (Column.ofMeta report).kind.buffer? with
    | some buffer => [.exchange (.bindColumn handle index buffer) (.ok ())]
    | none => told [.reported (.columnLeftUnbound report.name report.typeName)]

inductive ColumnFails (handle : Handle) (index : Nat) (failure : Failure) : List Event → Prop where
  | unreported : ColumnFails handle index failure
      [.exchange (.columnMeta handle index) (.error failure)]
  | unbound (report : ColumnMeta) (buffer : OutputBuffer)
      (known : (Column.ofMeta report).kind.buffer? = some buffer) :
      ColumnFails handle index failure
        [.exchange (.columnMeta handle index) (.ok report),
          .exchange (.bindColumn handle index buffer) (.error failure)]

variable (engine : Engine σ)

theorem columnMeta_asks (handle : Handle) (index : Nat) (session : Session σ) :
    ∃ answer later, (columnMeta engine handle index).run session = (answer, later) ∧
      Leads engine session [.exchange (.columnMeta handle index) answer] later :=
  ⟨_, _, rfl, .ask session (.columnMeta handle index)⟩

theorem bindColumn_asks (handle : Handle) (index : Nat) (buffer : OutputBuffer)
    (session : Session σ) :
    ∃ answer later, (bindColumn engine handle index buffer).run session = (answer, later) ∧
      Leads engine session [.exchange (.bindColumn handle index buffer) answer] later :=
  ⟨_, _, rfl, .ask session (.bindColumn handle index buffer)⟩

theorem bindResultColumn_cases (handle : Handle) (index : Nat) (session : Session σ) :
    (∃ report later, (bindResultColumn engine handle index).run session =
        (.ok (Column.ofMeta report), later) ∧
          Leads engine session (columnEvents handle index report) later) ∨
      ∃ failure events later, (bindResultColumn engine handle index).run session =
        (.error failure, later) ∧ ColumnFails handle index failure events ∧
          Leads engine session events later := by
  obtain ⟨answer, middle, looked, first⟩ := columnMeta_asks engine handle index session
  cases answer with
  | error failure =>
    exact .inr ⟨failure, _, middle, Step.run_bind_error looked _, .unreported, first⟩
  | ok report =>
    have ran : (bindResultColumn engine handle index).run session =
        (registerBuffer engine handle index (Column.ofMeta report) >>= fun _ =>
          pure (Column.ofMeta report)).run middle := Step.run_bind_ok looked _
    rw [ran, registerBuffer]
    cases known : (Column.ofMeta report).kind.buffer? with
    | none =>
      refine .inl ⟨report, _, rfl, ?_⟩
      rw [columnEvents, known]
      exact first.trans (.note middle _)
    | some buffer =>
      obtain ⟨answer, later, bound, second⟩ := bindColumn_asks engine handle index buffer middle
      cases answer with
      | error failure =>
        exact .inr ⟨failure, _, later, Step.run_bind_error bound _, .unbound report buffer known,
          first.trans second⟩
      | ok done =>
        refine .inl ⟨report, later, Step.run_bind_ok bound _, ?_⟩
        rw [columnEvents, known]
        exact first.trans second

/-! ## All columns -/

def columnEventsFrom (handle : Handle) : Nat → List ColumnMeta → List Event
  | _, [] => []
  | index, report :: rest =>
    columnEvents handle index report ++ columnEventsFrom handle (index + 1) rest

/-- The walk comes to its end, or it comes to the first column that fails. -/
theorem bindResultColumnsFrom_cases (handle : Handle) (index remaining : Nat)
    (session : Session σ) :
    (∃ reports later, (bindResultColumnsFrom engine handle index remaining).run session =
        (.ok (reports.map Column.ofMeta), later) ∧ reports.length = remaining ∧
          Leads engine session (columnEventsFrom handle index reports) later) ∨
      ∃ reports failure last later,
        (bindResultColumnsFrom engine handle index remaining).run session =
          (.error failure, later) ∧ reports.length < remaining ∧
            ColumnFails handle (index + reports.length) failure last ∧
              Leads engine session (columnEventsFrom handle index reports ++ last) later := by
  induction remaining generalizing index session with
  | zero => exact .inl ⟨[], session, rfl, rfl, .refl session⟩
  | succ remaining ih =>
    rw [bindResultColumnsFrom]
    rcases bindResultColumn_cases engine handle index session with
      ⟨report, middle, ran, first⟩ | ⟨failure, last, later, ran, fails, leads⟩
    · rw [Step.run_bind_ok ran]
      rcases ih (index + 1) middle with
        ⟨reports, later, rest, length, second⟩ |
        ⟨reports, failure, last, later, rest, fewer, fails, second⟩
      · exact .inl ⟨report :: reports, later, Step.run_bind_ok rest _, by simp [length],
          first.trans second⟩
      · refine .inr ⟨report :: reports, failure, last, later, Step.run_bind_error rest _,
          by simpa using fewer, ?_, ?_⟩
        · rwa [List.length_cons, Nat.add_comm reports.length, ← Nat.add_assoc]
        · rw [columnEventsFrom, List.append_assoc]
          exact first.trans second
    · exact .inr ⟨[], failure, last, later, Step.run_bind_error ran _, Nat.succ_pos remaining,
        fails, leads⟩

/-! ## What the engine has seen -/

def bufferOf (handle : Handle) (numbered : Column × Nat) : Option (Handle × Nat × OutputBuffer) :=
  numbered.1.kind.buffer?.map fun buffer => (handle, numbered.2, buffer)

theorem lookedAt_columnEvents (handle : Handle) (index : Nat) (report : ColumnMeta) :
    lookedAt (columnEvents handle index report) = [(handle, index)] := by
  rw [columnEvents]
  split <;> rfl

theorem buffered_columnEvents (handle : Handle) (index : Nat) (report : ColumnMeta) :
    buffered (columnEvents handle index report) =
      (bufferOf handle (Column.ofMeta report, index)).toList := by
  rw [columnEvents, bufferOf]
  split
  next buffer known =>
    rw [known]
    rfl
  next unknown =>
    rw [unknown]
    rfl

theorem lookedAt_columnEventsFrom (handle : Handle) (index : Nat) (reports : List ColumnMeta) :
    lookedAt (columnEventsFrom handle index reports) =
      (List.range' index reports.length).map (Prod.mk handle) := by
  induction reports generalizing index with
  | nil => rfl
  | cons report rest ih =>
    rw [columnEventsFrom, lookedAt_append, lookedAt_columnEvents, ih, List.length_cons,
      List.range'_succ, List.map_cons, List.singleton_append]

theorem buffered_columnEventsFrom (handle : Handle) (index : Nat) (reports : List ColumnMeta) :
    buffered (columnEventsFrom handle index reports) =
      ((reports.map Column.ofMeta).zipIdx index).filterMap (bufferOf handle) := by
  induction reports generalizing index with
  | nil => rfl
  | cons report rest ih =>
    rw [columnEventsFrom, buffered_append, buffered_columnEvents, ih, List.map_cons,
      List.zipIdx_cons]
    cases known : bufferOf handle (Column.ofMeta report, index) with
    | none => rw [List.filterMap_cons_none known]; rfl
    | some given => rw [List.filterMap_cons_some known]; rfl

theorem reported_columnEventsFrom {handle : Handle} {index offset : Nat}
    {reports : List ColumnMeta} {report : ColumnMeta} (listed : reports[offset]? = some report) :
    .exchange (.columnMeta handle (index + offset)) (.ok report) ∈
      columnEventsFrom handle index reports := by
  induction reports generalizing index offset with
  | nil => simp at listed
  | cons first rest ih =>
    rw [columnEventsFrom, List.mem_append]
    cases offset with
    | zero =>
      cases listed
      exact .inl List.mem_cons_self
    | succ offset =>
      have later := @ih (index + 1) offset listed
      rw [Nat.add_assoc, Nat.add_comm 1] at later
      exact .inr later

/-! ## The buffers of the columns -/

/-- Every column of a known kind is given an empty buffer for it, in the order of the columns, and
no other column is given one. -/
structure Buffers (handle : Handle) (columns : List Column)
    (given : List (Handle × Nat × OutputBuffer)) : Prop where
  ascending : given.Pairwise fun first second => first.2.1 < second.2.1
  exactly : ∀ owner index buffer, (owner, index, buffer) ∈ given ↔
    owner = handle ∧ ∃ column, columns[index]? = some column ∧ column.kind.EmptyBuffer buffer

theorem buffers_zipIdx (handle : Handle) (columns : List Column) :
    Buffers handle columns (columns.zipIdx.filterMap (bufferOf handle)) where
  ascending := by
    have numbered : columns.zipIdx.Pairwise fun first second => first.2 < second.2 := by
      rw [← List.pairwise_map (f := Prod.snd) (R := (· < ·)), List.zipIdx_map_snd]
      exact List.pairwise_lt_range'
    rw [List.pairwise_filterMap]
    refine numbered.imp ?_
    intro first second less given known other also
    obtain ⟨_, _, rfl⟩ := Option.map_eq_some_iff.mp known
    obtain ⟨_, _, rfl⟩ := Option.map_eq_some_iff.mp also
    exact less
  exactly owner index buffer := by
    simp only [List.mem_filterMap, Prod.exists, List.mem_zipIdx_iff_getElem?, bufferOf,
      Option.map_eq_some_iff, Prod.mk.injEq, ColumnKind.buffer?_eq_some_iff]
    grind

/-! ## How the walk ends -/

def firstColumns (handle : Handle) (count : Nat) : List (Handle × Nat) :=
  (List.range count).map (Prod.mk handle)

/-- All columns have been dealt with, or the last one that was looked at could not be reported, or it
was reported and could not be given its buffer. -/
inductive WalkEnds (handle : Handle) (count : Nat) (events : List Event) :
    List ColumnMeta → Except Failure (List Column) → Prop where
  | complete {reports : List ColumnMeta} (all : reports.length = count)
      (looked : lookedAt events = firstColumns handle count) :
      WalkEnds handle count events reports (.ok (reports.map Column.ofMeta))
  | unreported {reports : List ColumnMeta} {failure : Failure} (inside : reports.length < count)
      (looked : lookedAt events = firstColumns handle (reports.length + 1))
      (last : EndsWith events (.columnMeta handle reports.length) (.error failure)) :
      WalkEnds handle count events reports (.error failure)
  | unbound {reports : List ColumnMeta} {report : ColumnMeta} {buffer : OutputBuffer}
      {failure : Failure} (inside : reports.length < count)
      (looked : lookedAt events = firstColumns handle (reports.length + 1))
      (known : (Column.ofMeta report).kind.EmptyBuffer buffer)
      (last : EndsWith events (.bindColumn handle reports.length buffer) (.error failure)) :
      WalkEnds handle count events (reports ++ [report]) (.error failure)

def Reported (handle : Handle) (reports : List ColumnMeta) (events : List Event) : Prop :=
  ∀ index report, reports[index]? = some report →
    .exchange (.columnMeta handle index) (.ok report) ∈ events

theorem columnEventsFrom_concat (handle : Handle) (index : Nat) (reports : List ColumnMeta)
    (report : ColumnMeta) :
    columnEventsFrom handle index (reports ++ [report]) =
      columnEventsFrom handle index reports ++
        columnEvents handle (index + reports.length) report := by
  induction reports generalizing index with
  | nil => simp [columnEventsFrom]
  | cons first rest ih =>
    rw [List.cons_append, columnEventsFrom, ih, columnEventsFrom, List.append_assoc,
      List.length_cons, Nat.add_assoc, Nat.add_comm 1]

theorem reported_columnEvents (handle : Handle) (reports : List ColumnMeta) :
    Reported handle reports (columnEventsFrom handle 0 reports) := by
  intro index report listed
  have happened : .exchange (.columnMeta handle (0 + index)) (.ok report) ∈
      columnEventsFrom handle 0 reports := reported_columnEventsFrom listed
  rwa [Nat.zero_add] at happened

theorem buffers_columnEvents (handle : Handle) (reports : List ColumnMeta) :
    Buffers handle (reports.map Column.ofMeta)
      (buffered (columnEventsFrom handle 0 reports)) := by
  rw [buffered_columnEventsFrom]
  exact buffers_zipIdx handle _

theorem lookedAt_columnEvents_all (handle : Handle) (reports : List ColumnMeta) :
    lookedAt (columnEventsFrom handle 0 reports) = firstColumns handle reports.length := by
  rw [lookedAt_columnEventsFrom, firstColumns, List.range_eq_range']

/-- The columns that nothing failed on, and the one that something did, tell how the walk ends. -/
theorem walkEnds_of_fails {handle : Handle} {count : Nat} {reports : List ColumnMeta}
    {failure : Failure} {last : List Event} (inside : reports.length < count)
    (fails : ColumnFails handle reports.length failure last) :
    let events := columnEventsFrom handle 0 reports ++ last
    ∃ all, Reported handle all events ∧ Buffers handle (all.map Column.ofMeta) (buffered events) ∧
      WalkEnds handle count events all (.error failure) := by
  intro events
  have looked : lookedAt last = [(handle, reports.length)] →
      lookedAt events = firstColumns handle (reports.length + 1) := by
    intro one
    rw [lookedAt_append, one, lookedAt_columnEvents_all, firstColumns, firstColumns,
      List.range_succ, List.map_append]
    rfl
  cases fails with
  | unreported =>
    refine ⟨reports, ?_, ?_, .unreported inside (looked rfl) (.append ⟨[], [], rfl, rfl⟩ _)⟩
    · intro index report listed
      exact List.mem_append_left _ (reported_columnEvents handle reports index report listed)
    · have none : buffered [.exchange (.columnMeta handle reports.length) (.error failure)] = [] :=
        rfl
      rw [buffered_append, none, List.append_nil]
      exact buffers_columnEvents handle reports
  | unbound report buffer known =>
    -- The engine was asked for the same as if it had not refused the buffer.
    have asked := columnEventsFrom_concat handle 0 reports report
    rw [columnEvents, Nat.zero_add, known] at asked
    have empty := (ColumnKind.buffer?_eq_some_iff _ buffer).mp known
    refine ⟨reports ++ [report], ?_, ?_, .unbound inside (looked rfl) empty
      (.append ⟨[.exchange (.columnMeta handle reports.length) (.ok report)], [], rfl, rfl⟩ _)⟩
    · intro index other listed
      have happened := reported_columnEvents handle (reports ++ [report]) index other listed
      rw [asked, List.mem_append] at happened
      refine List.mem_append.mpr (happened.imp id fun behind => ?_)
      rcases List.mem_cons.mp behind with same | bound
      · exact List.mem_cons.mpr (.inl same)
      · cases List.mem_singleton.mp bound
    · have fitting := buffers_columnEvents handle (reports ++ [report])
      rw [asked, buffered_append] at fitting
      rw [buffered_append]
      exact fitting

/-- Whatever the engine reports of a result, and wherever it fails, the buffers that it was given fit
the columns that it has reported, and the walk ends with the first failure. -/
theorem bindResultColumns_fits (engine : Engine σ) (handle : Handle) (session : Session σ) :
    let ran := (bindResultColumns engine handle).run session
    let events := ran.2.since session
    Passes engine session ran.1 events ran.2 ∧
      ∃ reports, Reported handle reports events ∧
        Buffers handle (reports.map Column.ofMeta) (buffered events) ∧
          WalkEnds handle (engine.columnCount session.state handle) events reports ran.1 := by
  intro ran events
  obtain ⟨known, passes, _⟩ := asks_bindResultColumns engine handle session
  have same : events = known := passes.since_eq
  refine ⟨same ▸ passes, ?_⟩
  have happened {answer : Except Failure (List Column)} {later : Session σ} {seen : List Event}
      (ended : ran = (answer, later)) (leads : Leads engine session seen later) :
      events = seen := by
    change ran.2.since session = seen
    rw [ended]
    exact leads.since_eq
  have walk : ran = (bindResultColumnsFrom engine handle 0
      (engine.columnCount session.state handle)).run session := rfl
  rcases bindResultColumnsFrom_cases engine handle 0 (engine.columnCount session.state handle)
    session with ⟨reports, later, ended, all, leads⟩ |
      ⟨reports, failure, last, later, ended, inside, fails, leads⟩
  · rw [happened (walk.trans ended) leads, walk, ended]
    refine ⟨reports, reported_columnEvents handle reports, buffers_columnEvents handle reports,
      .complete all ?_⟩
    rw [lookedAt_columnEvents_all, all]
  · rw [happened (walk.trans ended) leads, walk, ended]
    rw [Nat.zero_add] at fails
    exact walkEnds_of_fails inside fails

/-- The second column is left to the driver, and the buffer of the third one is refused. -/
def halfBound : Session Script.World where
  state := {
    live := [(⟨0⟩, {
      script := {}
      sql := "SELECT * FROM files"
      result := {
        columns := [⟨"id", "bigint", some "int identity"⟩, ⟨"made", "datetime2", none⟩,
          ⟨"body", "VARBINARY(max)", some "VarBinary (max)"⟩, ⟨"name", "nvarchar", none⟩]
        columnFault := some ⟨2, .bind "#2" "no room"⟩ } })] }

theorem bindResultColumns_fits_halfBound :
    let ran := (bindResultColumns (Script.engine {}) ⟨0⟩).run halfBound
    let events := ran.2.since halfBound
    ∃ reports, reports.length = 3 ∧ Reported ⟨0⟩ reports events ∧
      Buffers ⟨0⟩ (reports.map Column.ofMeta) (buffered events) ∧
        buffered events = [(⟨0⟩, 0, .integer none), (⟨0⟩, 2, .lob .binary .empty)] ∧
          lookedAt events = firstColumns ⟨0⟩ 3 ∧
            EndsWith events (.bindColumn ⟨0⟩ 2 (.lob .binary .empty))
              (.error (.bind "#2" "no room")) := by
  intro ran events
  have failed : failureOf ran.1 = some (.bind "#2" "no room") := by decide +kernel
  have asked : (requests events).getLast? = some (.bindColumn ⟨0⟩ 2 (.lob .binary .empty)) := by
    decide +kernel
  have given : buffered events = [(⟨0⟩, 0, .integer none), (⟨0⟩, 2, .lob .binary .empty)] := by
    decide +kernel
  obtain ⟨_, reports, reported, buffers, ends⟩ :=
    bindResultColumns_fits (Script.engine {}) ⟨0⟩ halfBound
  rw [failureOf_eq_some_iff.mp failed] at ends
  cases ends with
  | unreported inside looked last => cases asked.symm.trans last.getLast?
  | unbound inside looked known last =>
    have same := asked.symm.trans last.getLast?
    rw [Option.some.injEq, Request.bindColumn.injEq] at same
    obtain ⟨_, place, rfl⟩ := same
    rw [← place] at looked last
    refine ⟨_, ?_, reported, buffers, given, looked, last⟩
    rw [List.length_append, ← place]
    rfl

end Session

end SqlBridge
