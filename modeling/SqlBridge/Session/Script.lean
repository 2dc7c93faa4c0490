import SqlBridge.Session.Engine

/-!
# Scripted engines

An engine without a server.  Every handle follows a script: a list of runs,
each with its columns and rows or with the error records that it leaves, and
places at which requests are refused.  Error records are never cleared.
-/

set_option autoImplicit false

namespace SqlBridge.Script

/-- A failure that waits at one place. -/
structure Fault (α : Type) where
  place : α
  failure : Failure

def check {α : Type} [DecidableEq α] (fault : Option (Fault α)) (place : α) :
    Except Failure Unit :=
  match fault with
  | none => .ok ()
  | some fault => if fault.place = place then .error fault.failure else .ok ()

/-- The records that a failed run leaves on the two handles; one that is absent
leaves the record there as it was. -/
structure FailedRun where
  connection : Option ErrorRecord := none
  statement : Option ErrorRecord := none

structure RunScript where
  columns : List ColumnMeta := []
  rows : List (List Value) := []
  rowCount : Nat := 0
  failed : Option FailedRun := none
  metaFault : Option (Fault Nat) := none
  columnFault : Option (Fault Nat) := none
  rowFault : Option (Fault Nat) := none

structure HandleScript where
  runs : List RunScript := []
  prepareFailure : Option Failure := none
  valueFault : Option (Fault String) := none
  blobFault : Option (Fault String) := none

/-- The entry at a position, or the last one beyond the end. -/
def entryAt {α : Type} (position : Nat) : List α → Option α
  | [] => none
  | [last] => some last
  | first :: rest => match position with
    | 0 => some first
    | position + 1 => entryAt position rest

/-- A handle in use. -/
structure Live where
  script : HandleScript
  sql : String
  error : ErrorRecord := .none
  runs : Nat := 0
  result : RunScript := {}
  cursor : Nat := 0

structure World where
  tables : List (String × ColumnInformation) := []
  schemaFailure : Option Failure := none
  connectionError : ErrorRecord := .none
  handles : List HandleScript := []
  live : List (Handle × Live) := []

namespace World

def find? (world : World) (handle : Handle) : Option Live :=
  world.live.lookup handle

def store (world : World) (handle : Handle) (live : Live) : World :=
  { world with live := (handle, live) :: world.live.filter fun entry => entry.1 != handle }

theorem find?_store_self (world : World) (handle : Handle) (live : Live) :
    (world.store handle live).find? handle = some live := by
  simp [find?, store]

theorem find?_store_of_ne (world : World) {handle other : Handle} (unlike : other ≠ handle)
    (live : Live) : (world.store handle live).find? other = world.find? other := by
  have unequal : (other == handle) = false := beq_false_of_ne unlike
  have dropped : ∀ entries : List (Handle × Live),
      (entries.filter fun entry => entry.1 != handle).lookup other = entries.lookup other := by
    intro entries
    induction entries with
    | nil => rfl
    | cons entry rest ih =>
      obtain ⟨key, value⟩ := entry
      by_cases same : key = handle
      · simp [same, List.lookup_cons, unequal, ih]
      · simp [same, List.lookup_cons, ih]
  rw [find?, store, List.lookup_cons, unequal]
  exact dropped world.live

def rowsLeft (world : World) (handle : Handle) : Nat :=
  match world.find? handle with
  | none => 0
  | some live => live.result.rows.length - live.cursor

def columnInformation (world : World) (table : String) : Except Failure ColumnInformation :=
  match world.schemaFailure with
  | some failure => .error failure
  | none => .ok ((world.tables.lookup table).getD {})

def prepare (world : World) (handle : Handle) (sql : String) : Except Failure Unit × World :=
  let script := (entryAt handle.number world.handles).getD {}
  match script.prepareFailure with
  | some failure => (.error failure, world)
  | none => (.ok (), world.store handle { script := script, sql := sql })

/-- A failed run leaves the result before it in place. -/
def run (world : World) (handle : Handle) : Bool × World :=
  match world.find? handle with
  | none => (false, world)
  | some live =>
    let script := (entryAt live.runs live.script.runs).getD {}
    let live := { live with runs := live.runs + 1 }
    match script.failed with
    | some left =>
      let live := { live with error := left.statement.getD live.error }
      let connection := left.connection.getD world.connectionError
      (false, { world.store handle live with connectionError := connection })
    | none => (true, world.store handle { live with result := script, cursor := 0 })

def columnMeta (world : World) (handle : Handle) (index : Nat) : Except Failure ColumnMeta := do
  let result := ((world.find? handle).map Live.result).getD {}
  check result.metaFault index
  match result.columns[index]? with
  | some column => .ok column
  | none => .error (.other ("no column " ++ toString index))

def bindColumn (world : World) (handle : Handle) (index : Nat) : Except Failure Unit :=
  check ((world.find? handle).bind fun live => live.result.columnFault) index

def bindValue (world : World) (handle : Handle) (placeholder : String) : Except Failure Unit :=
  check ((world.find? handle).bind fun live => live.script.valueFault) placeholder

def bindBlob (world : World) (handle : Handle) (placeholder : String) : Except Failure Unit :=
  check ((world.find? handle).bind fun live => live.script.blobFault) placeholder

/-- A refused row stays where it is. -/
def fetchRow (world : World) (handle : Handle) : Except Failure (Option (List Value)) × World :=
  match world.find? handle with
  | none => (.ok none, world)
  | some live =>
    match check live.result.rowFault live.cursor, live.result.rows[live.cursor]? with
    | .error failure, _ => (.error failure, world)
    | .ok (), none => (.ok none, world)
    | .ok (), some row => (.ok (some row), world.store handle { live with cursor := live.cursor + 1 })

theorem rowsLeft_fetchRow_lt (handle : Handle) (world : World) (row : List Value)
    (fetched : (world.fetchRow handle).1 = .ok (some row)) :
    (world.fetchRow handle).2.rowsLeft handle < world.rowsLeft handle := by
  unfold fetchRow at fetched ⊢
  split at fetched
  · simp at fetched
  · rename_i live found
    split at fetched
    · simp at fetched
    · simp at fetched
    · rename_i checked present
      have inside := (List.getElem?_eq_some_iff.mp present).1
      simp only [rowsLeft, found, find?_store_self]
      omega

/-- Fetches rows as pairs until none is left; rows read before a failure are lost. -/
def fetchKeyPairsFrom (handle : Handle) (pairs : List (Value × Value)) (world : World) :
    Except Failure (List (Value × Value)) × World :=
  match _fetched : world.fetchRow handle with
  | (.error failure, later) => (.error failure, later)
  | (.ok none, later) => (.ok pairs.reverse, later)
  | (.ok (some row), later) =>
    fetchKeyPairsFrom handle ((row.getD 0 .null, row.getD 1 .null) :: pairs) later
termination_by world.rowsLeft handle
decreasing_by
  have shrinks := rowsLeft_fetchRow_lt handle world row
  rw [_fetched] at shrinks
  exact shrinks rfl

def answer : (request : Request) → World → request.Answer × World
  | .columnInformation table, world => (world.columnInformation table, world)
  | .prepare handle sql _, world => world.prepare handle sql
  | .setFetchMode _ _, world => ((), world)
  | .run handle _, world => world.run handle
  | .columnMeta handle index, world => (world.columnMeta handle index, world)
  | .bindColumn handle index _, world => (world.bindColumn handle index, world)
  | .bindValue handle placeholder _, world => (world.bindValue handle placeholder, world)
  | .bindBlob handle placeholder _, world => (world.bindBlob handle placeholder, world)
  | .releaseBlobs _, world => ((), world)
  | .fetchRow handle, world => world.fetchRow handle
  | .fetchKeyPairs handle, world => world.fetchKeyPairsFrom handle []

end World

/-- The engine that follows the scripts of its world.  Its clock stands still. -/
def engine (dialect : Dialect) : Engine World where
  dialect := dialect
  answer := World.answer
  connectionError := World.connectionError
  statementError world handle := ((world.find? handle).map Live.error).getD .none
  sql world handle := ((world.find? handle).map Live.sql).getD ""
  columnCount world handle := ((world.find? handle).map fun live => live.result.columns.length).getD 0
  rowCount world handle := ((world.find? handle).map fun live => live.result.rowCount).getD 0
  clock _ := 0
  rowsLeft := World.rowsLeft
  fetchRow_lt := World.rowsLeft_fetchRow_lt

end SqlBridge.Script
