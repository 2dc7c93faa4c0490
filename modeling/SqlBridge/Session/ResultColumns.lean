import SqlBridge.Session.Basic

/-!
# Binding result columns

After a run each result column is classified and its output buffer registered.
A column of no known kind is left to the driver.  The first column that fails,
in its metadata or in its buffer, ends the walk.
-/

set_option autoImplicit false

namespace SqlBridge.Session

variable {σ : Type} (engine : Engine σ)

/-- Registers the buffer of a column's kind, or tells that there is none. -/
def registerBuffer (handle : Handle) (index : Nat) (column : Column) : Step (Session σ) Unit :=
  match column.kind.buffer? with
  | some buffer => bindColumn engine handle index buffer
  | none => notify (.columnLeftUnbound column.name column.nativeType)

/-- Classifies one column and sees to its buffer. -/
def bindResultColumn (handle : Handle) (index : Nat) : Step (Session σ) Column := do
  let column := Column.ofMeta (← columnMeta engine handle index)
  registerBuffer engine handle index column
  return column

/-- So many columns from an index on, in ascending order. -/
def bindResultColumnsFrom (handle : Handle) : Nat → Nat → Step (Session σ) (List Column)
  | _, 0 => return []
  | index, remaining + 1 => do
    let column ← bindResultColumn engine handle index
    let columns ← bindResultColumnsFrom handle (index + 1) remaining
    return column :: columns

def bindResultColumns (handle : Handle) : Step (Session σ) (List Column) := do
  let count ← reading fun state => engine.columnCount state handle
  bindResultColumnsFrom engine handle 0 count

end SqlBridge.Session
