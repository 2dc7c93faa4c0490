import SqlBridge.Update.Execute
import SqlBridge.Proofs.Along

/-!
# Which steps leave the log alone

The log of a session is what its recorder has let an observer see, in order.  Requests do not show
in it, nor do notices; so all that a statement or an update does, except for logging a run, leaves
it as it was.
-/

set_option autoImplicit false

namespace SqlBridge

open Transcript

variable {σ α β : Type}

def Event.entry? : Event → Option LogEntry
  | .emitted (.recorded entry) => some entry
  | _ => none

namespace Transcript

def recorded (events : List Event) : List LogEntry :=
  events.filterMap Event.entry?

@[simp] theorem recorded_append (front back : List Event) :
    recorded (front ++ back) = recorded front ++ recorded back :=
  List.filterMap_append

theorem recorded_reported (notices : List Notice) :
    recorded (told (notices.map Emission.reported)) = [] := by
  induction notices with
  | nil => rfl
  | cons notice rest ih => exact ih

end Transcript

namespace Session

variable (engine : Engine σ)

/-- These entries go into the log on the way from one session to another, which keeps its logger. -/
structure Logs (entries : List LogEntry) (session : Session σ) (events : List Event)
    (later : Session σ) : Prop extends Leads engine session events later where
  logger : later.logger = session.logger
  entries : recorded events = entries

theorem Logs.trans {engine : Engine σ} {first second : List LogEntry}
    {session middle later : Session σ} {front back : List Event}
    (before : Logs engine first session front middle)
    (behind : Logs engine second middle back later) :
    Logs engine (first ++ second) session (front ++ back) later where
  toLeads := before.toLeads.trans behind.toLeads
  logger := behind.logger.trans before.logger
  entries := by rw [recorded_append, before.entries, behind.entries]

abbrev Quiet : Session σ → List Event → Session σ → Prop :=
  Logs engine []

theorem chains_quiet : Chains (Quiet engine) where
  refl session := ⟨.refl session, rfl, rfl⟩
  trans := .trans

theorem Quiet.ask (request : Request) (session : Session σ) :
    Quiet engine session [.exchange request (engine.answer request session.state).1]
      (session.answered engine request) :=
  ⟨.ask session request, rfl, rfl⟩

/-! ## Steps on a session -/

theorem quiet_exchange {request : Request} (read : request.Answer → Except Failure α)
    (session : Session σ) :
    Step.Along (Quiet engine) (do Step.ofExcept (read (← ask engine request))) session :=
  along_exchange engine (chains_quiet engine) (.ask engine request session) read

theorem quiet_notifyAll (notices : List Notice) (session : Session σ) :
    Step.Along (Quiet engine) (notifyAll notices) session := by
  rw [Step.Along, run_notifyAll]
  exact ⟨_, .note session _, rfl, recorded_reported notices⟩

theorem compositional_quiet :
    Compositional fun step => ∀ session, Step.Along (Quiet engine) step session where
  pure answer _ := .pure (chains_quiet engine) answer
  reading _ _ := .reading (chains_quiet engine) _
  notifyAll := quiet_notifyAll engine
  bind first second session :=
    .bind (chains_quiet engine) (first session) fun answer later _ => second answer later

theorem quiet_bindResultColumns (handle : Handle) (session : Session σ) :
    Step.Along (Quiet engine) (bindResultColumns engine handle) session := by
  apply (compositional_quiet engine).bindResultColumns
  · intro index
    exact quiet_exchange engine id
  · intro index buffer
    exact quiet_exchange engine id

theorem quiet_prepare (sql : String) (options : PrepareOptions) (session : Session σ) :
    Step.Along (Quiet engine) (prepare engine sql options) session := by
  have chains := chains_quiet engine
  apply Step.Along.bind chains (.reading chains _)
  intro handle unnumbered _
  have numbers : Step.Along (Quiet engine)
      (Step.change fun session : Session σ => { session with prepared := session.prepared + 1 })
      unnumbered :=
    ⟨[], ⟨(List.append_nil _).symm, rfl, trivial⟩, rfl, rfl⟩
  apply Step.Along.bind chains numbers
  intro _ numbered _
  apply Step.Along.bind chains ⟨_, .ask engine _ numbered⟩
  intro answer asked _
  apply Step.Along.bind chains (.ofExcept chains answer)
  intro _ granted _
  exact .pure chains handle

theorem quiet_bindParams (handle : Handle) (params : List Param) (session : Session σ) :
    Step.Along (Quiet engine) (bindParams engine handle params) session := by
  have chains := chains_quiet engine
  induction params generalizing session with
  | nil => exact .pure chains ()
  | cons param rest ih =>
    have binds : Step.Along (Quiet engine)
        (bindValue engine handle param.placeholder param.value) session :=
      quiet_exchange engine id session
    apply Step.Along.bind chains binds
    intro _ bound _
    exact ih bound

theorem quiet_bindExpressions (handle : Handle) (expressions : Fields Expression)
    (start : Fields Value × Session σ) :
    Step.Along (Beside (Quiet engine)) (bindExpressions engine handle expressions) start := by
  have chains := (chains_quiet engine).beside (ρ := Fields Value)
  induction expressions generalizing start with
  | nil => exact .pure chains ()
  | cons field rest ih =>
    apply Step.Along.bind chains (.lift (quiet_bindParams engine handle _ start.2))
    intro _ bound _
    apply Step.Along.bind chains (.changeOwn (chains_quiet engine) _)
    intro _ taken _
    exact ih taken

theorem quiet_bindLiteralsFrom (handle : Handle) (info : ColumnInformation)
    (placeholder : Nat → String) (number : Nat) (literals : Fields Value)
    (start : BlobHolder × Session σ) :
    Step.Along (Beside (Quiet engine))
      (bindLiteralsFrom engine handle info placeholder number literals) start := by
  have chains := (chains_quiet engine).beside (ρ := BlobHolder)
  induction literals generalizing number start with
  | nil => exact .pure chains ()
  | cons field rest ih =>
    have first : Step.Along (Beside (Quiet engine))
        (bindLiteral engine handle info (placeholder number) field.1 field.2) start := by
      unfold bindLiteral
      split
      · apply Step.Along.bind chains (.changeOwn (chains_quiet engine) _)
        intro _ held _
        exact .lift (quiet_exchange engine id held.2)
      · exact .lift (quiet_exchange engine id start.2)
    apply Step.Along.bind chains first
    intro _ bound _
    exact ih (number + 1) bound

theorem quiet_releaseHeld (handle : Handle) (holder : BlobHolder) (session : Session σ) :
    Step.Along (Quiet engine) (releaseHeld engine handle holder) session := by
  unfold releaseHeld
  split
  · exact .pure (chains_quiet engine) ()
  · exact ⟨_, .ask engine _ session⟩

end Session

/-! ## Steps on a statement -/

namespace Statement

open Session (Quiet chains_quiet)

variable (engine : Engine σ)

theorem quiet_prepare (sql : String) (options : PrepareOptions) (session : Session σ) :
    Step.Along (Quiet engine) (prepare engine sql options) session := by
  apply Step.Along.bind (chains_quiet engine) (Session.quiet_prepare engine sql options session)
  intro handle _ _
  exact .pure (chains_quiet engine) _

theorem quiet_failureRecord (handle : Handle) (session : Session σ) :
    Step.Along (Quiet engine) (failureRecord engine handle) session := by
  have closed := Session.compositional_quiet engine
  apply closed.bind (closed.reading _)
  intro connection
  apply closed.bind (closed.reading _)
  intro statement
  apply closed.bind (closed.reading _)
  intro text
  apply closed.bind (closed.notifyAll _)
  intro _
  apply closed.bind (closed.notifyAll _)
  intro _
  exact closed.pure _

theorem quiet_replacement (statement : Statement) (session : Session σ) :
    Step.Along (Quiet engine) (replacement engine statement) session := by
  have closed := Session.compositional_quiet engine
  apply closed.bind (closed.reading _)
  intro text
  apply closed.bind (Session.quiet_prepare engine text statement.prepareOptions)
  intro handle
  apply closed.bind fun session => ⟨_, Quiet.ask engine _ session⟩
  intro _
  apply closed.bind (closed.notifyAll _)
  intro _
  exact closed.pure handle

variable (start : Statement × Session σ)

theorem quiet_settlePrepare : Step.Along (Beside (Quiet engine)) (settlePrepare engine) start := by
  have chains := (chains_quiet engine).beside (ρ := Statement)
  apply Step.Along.own chains
  split
  · apply Step.Along.bind chains (.lift (quiet_replacement engine start.1 start.2))
    intro handle _ _
    exact .changeOwn (chains_quiet engine) _
  · exact .pure chains ()

theorem quiet_setFetchMode (mode : FetchMode) :
    Step.Along (Beside (Quiet engine)) (setFetchMode engine mode) start := by
  have chains := (chains_quiet engine).beside (ρ := Statement)
  have asks : Step.Along (Quiet engine)
      (Session.setFetchMode engine start.1.handle mode) start.2 := ⟨_, .ask engine _ start.2⟩
  apply Step.Along.own chains
  apply Step.Along.bind chains (.lift asks)
  intro _ _ _
  exact .changeOwn (chains_quiet engine) _

/-- No call but an execution adds to the log. -/
theorem admits_quiet : Admits engine (Beside (Quiet engine)) where
  toChains := (chains_quiet engine).beside
  mark start := (chains_quiet engine).refl start.2
  settle := quiet_settlePrepare engine
  setMode mode start := quiet_setFetchMode engine start mode
  ask request _ _ session := .ask engine request session

end Statement

end SqlBridge
