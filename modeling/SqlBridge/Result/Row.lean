import SqlBridge.Failure

/-!
# Rows

A fetched row, restricted to the visible columns.
-/

set_option autoImplicit false

namespace SqlBridge

structure Row where
  columns : List String
  values : List Value
  deriving DecidableEq

namespace Row

def size (row : Row) : Nat :=
  row.values.length

def isEmpty (row : Row) : Bool :=
  row.values.isEmpty

/-- The value of the first column of that name. -/
def get? (row : Row) (column : String) : Option Value := do
  let position ← row.columns.findIdx? fun name => name == column
  row.values[position]?

def get (row : Row) (column : String) : Except Failure Value :=
  match row.get? column with
  | some value => .ok value
  | none => .error (.columnNotPresent column)

def getAt? (row : Row) (index : Nat) : Option Value :=
  row.values[index]?

end Row

end SqlBridge
