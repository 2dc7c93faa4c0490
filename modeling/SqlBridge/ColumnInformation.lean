/-!
# Column information

What the schema knows about a table: its identity column, and which columns
hold large objects.
-/

set_option autoImplicit false

namespace SqlBridge

structure ColumnInformation where
  identity : Option String := none
  /-- In ascending order and without repetition when built by `withBlob`. -/
  blobs : List String := []
  deriving DecidableEq

namespace ColumnInformation

/-- Files a name at its place; a name already there is not filed again. -/
def fileName (name : String) : List String → List String
  | [] => [name]
  | head :: rest =>
    if name = head then head :: rest
    else if name < head then name :: head :: rest
    else head :: fileName name rest

def withIdentity (info : ColumnInformation) (column : String) : ColumnInformation :=
  { info with identity := some column }

def withBlob (info : ColumnInformation) (column : String) : ColumnInformation :=
  { info with blobs := fileName column info.blobs }

def isBlob (info : ColumnInformation) (column : String) : Bool :=
  info.blobs.contains column

end ColumnInformation

end SqlBridge
