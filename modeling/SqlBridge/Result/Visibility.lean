import SqlBridge.Result.Column

/-!
# Visible columns

Technical columns, marked by their name, and the columns that a call asks to
drop are kept from callers.
-/

set_option autoImplicit false

namespace SqlBridge

def technicalPrefix : String := "__"

def isTechnical (name : String) : Bool :=
  technicalPrefix.toList.isPrefixOf name.toList

/-- Names are compared exactly. -/
def isVisible (dropped : List String) (column : Column) : Bool :=
  !isTechnical column.name && !dropped.contains column.name

/-- The positions of the visible columns, counted from the given start. -/
def visiblePositionsFrom (dropped : List String) : Nat → List Column → List Nat
  | _, [] => []
  | position, column :: rest =>
    if isVisible dropped column then position :: visiblePositionsFrom dropped (position + 1) rest
    else visiblePositionsFrom dropped (position + 1) rest

def visiblePositions (columns : List Column) (dropped : List String) : List Nat :=
  visiblePositionsFrom dropped 0 columns

end SqlBridge
