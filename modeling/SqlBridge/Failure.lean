import SqlBridge.ErrorRecord

/-!
# Failures

The causes for which an operation has no answer.
-/

set_option autoImplicit false

namespace SqlBridge

inductive Failure where
  /-- The engine refused to run a statement. -/
  | execution (record : ErrorRecord)
  | bind (placeholder message : String)
  | decode (column message : String)
  | validation (message : String)
  | other (message : String)
  deriving DecidableEq

namespace Failure

def message : Failure → String
  | execution record => record.text
  | bind placeholder message => "Bind error on '" ++ placeholder ++ "': " ++ message
  | decode column message => "Decode error on column '" ++ column ++ "': " ++ message
  | validation message => "Validation error: " ++ message
  | other message => message

def isExecution : Failure → Bool
  | execution _ => true
  | _ => false

def record? : Failure → Option ErrorRecord
  | execution record => some record
  | _ => none

def sqlstate? (failure : Failure) : Option String :=
  failure.record?.map ErrorRecord.sqlstate

/-- A result column was asked for by a number that it does not have. -/
def indexOutOfRange (index : Nat) : Failure :=
  decode ("#" ++ toString index) "column index out of range"

/-- A result column was asked for by a name that no visible column has. -/
def columnNotPresent (column : String) : Failure :=
  decode column "column not present in result"

end Failure

end SqlBridge
