/-!
# Options

How rows are materialised, what one execute call asks for, and how a statement
is prepared.
-/

set_option autoImplicit false

namespace SqlBridge

inductive FetchMode where
  /-- Values by column name. -/
  | assoc
  /-- Values by number. -/
  | num
  /-- The first column keys the second. -/
  | keyPair
  /-- Rows take the shape of the named record. -/
  | record (name : String)
  deriving DecidableEq

/-- A request for a fetch mode: the name of a record shape, or a mode as such. -/
inductive Fetch where
  | record (name : String)
  | mode (chosen : FetchMode)
  deriving DecidableEq

def Fetch.toMode : Fetch → FetchMode
  | .record name => .record name
  | .mode chosen => chosen

structure QueryOptions where
  fetch : Option Fetch := none
  /-- Columns to keep from the caller. -/
  dropColumns : List String := []
  /-- Leaves a pending re-preparation pending. -/
  alreadyPrepared : Bool := false
  deriving DecidableEq

namespace QueryOptions

def withFetchRecord (options : QueryOptions) (name : String) : QueryOptions :=
  { options with fetch := some (.record name) }

def withFetchMode (options : QueryOptions) (mode : FetchMode) : QueryOptions :=
  { options with fetch := some (.mode mode) }

def dropping (options : QueryOptions) (names : List String) : QueryOptions :=
  { options with dropColumns := options.dropColumns ++ names }

def withAlreadyPrepared (options : QueryOptions) (already : Bool) : QueryOptions :=
  { options with alreadyPrepared := already }

/-- The fetch mode that a call asks for, if it asks for one. -/
def mode? (options : QueryOptions) : Option FetchMode :=
  options.fetch.map Fetch.toMode

end QueryOptions

/-- Two optimisations of the driver, both on unless turned off. -/
structure PrepareOptions where
  directQuery : Bool := true
  emulatePrepares : Bool := true
  deriving DecidableEq

namespace PrepareOptions

/-- Neither optimisation: the SQL reaches the server as it is written. -/
def insecure : PrepareOptions := ⟨false, false⟩

def isInsecure (options : PrepareOptions) : Bool :=
  !options.directQuery && !options.emulatePrepares

end PrepareOptions

end SqlBridge
