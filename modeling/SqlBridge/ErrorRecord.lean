import SqlBridge.Text.Json

/-!
# Error records

What a handle reports about its last failure.  Both the connection and the
statement hold such a record; after a failed run one of the two is chosen.
-/

set_option autoImplicit false

namespace SqlBridge

structure ErrorRecord where
  sqlstate : String
  code : Option Int32
  message : Option String
  deriving DecidableEq

namespace ErrorRecord

def successSqlstate : String := "00000"

/-- The record of a handle on which nothing failed. -/
def none : ErrorRecord := ⟨successSqlstate, .none, .none⟩

instance : Inhabited ErrorRecord := ⟨none⟩

/-- Success with a code or a message attached counts as an error. -/
def isNone (record : ErrorRecord) : Bool :=
  record == none

/-- The connection's record if it reports anything, else the statement's. -/
def reconcile (connection : ErrorRecord) (statement : Option ErrorRecord) : ErrorRecord :=
  if connection.isNone then statement.getD none else connection

/-- The statement's record, when it reports something that the connection's hides. -/
def overruled? (connection : ErrorRecord) (statement : Option ErrorRecord) : Option ErrorRecord :=
  if connection.isNone then .none else statement.filter fun record => !record.isNone

def text (record : ErrorRecord) : String :=
  let code := (record.code.map fun code => toString code.toInt).getD ""
  "SQLSTATE[" ++ record.sqlstate ++ "]: General error " ++ code ++ ": " ++ record.message.getD ""

def toJson (record : ErrorRecord) : String :=
  Json.object [
    ("sqlstate", Json.quoted record.sqlstate),
    ("code", (record.code.map fun code => toString code.toInt).getD "null"),
    ("message", (record.message.map Json.quoted).getD "null")]

end ErrorRecord

end SqlBridge
