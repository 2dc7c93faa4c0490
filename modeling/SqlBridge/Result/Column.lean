import SqlBridge.Text.Blank
import SqlBridge.Value

/-!
# Result columns

A column is classified by the leading word of its type name, and the kind
decides which buffer receives its data.  Columns of no known kind get none and
are left to the driver.
-/

set_option autoImplicit false

namespace SqlBridge

inductive ColumnKind where
  | integer
  | utf8Text
  | binary
  | unclassified
  deriving DecidableEq

inductive Encoding where
  | binary
  | utf8
  deriving DecidableEq

/-- A buffer registered for the data of one result column. -/
inductive OutputBuffer where
  /-- Streamed bytes. -/
  | lob (encoding : Encoding) (data : ByteArray)
  | integer (datum : Option Int64)
  | text (encoding : Encoding) (data : Option String)
  deriving DecidableEq

namespace ColumnKind

/-- Only the first word of a type name counts, in either ASCII case. -/
def classify (typeName : String) : ColumnKind :=
  let word := String.ofList ((Text.firstWord typeName.toList).map Char.toLower)
  if word = "varbinary" then binary
  else if word ∈ ["int", "bit", "smallint", "tinyint"] then integer
  else if word ∈ ["nvarchar", "varchar"] then utf8Text
  else unclassified

/-- The empty buffer for a kind of column. -/
def buffer? : ColumnKind → Option OutputBuffer
  | binary => some (.lob .binary .empty)
  | integer => some (.integer none)
  | utf8Text => some (.text .utf8 none)
  | unclassified => none

end ColumnKind

/-- What the driver reports about a result column. -/
structure ColumnMeta where
  name : String
  nativeType : String
  /-- The declared SQL type, where the driver knows it. -/
  declaredType : Option String
  deriving DecidableEq

/-- The first word of the declared type, or a declared type without words as it
is; without a declared type the driver's own. -/
def ColumnMeta.typeName (column : ColumnMeta) : String :=
  match column.declaredType with
  | none => column.nativeType
  | some declared =>
    match Text.firstWord declared.toList with
    | [] => declared
    | word => String.ofList word

/-- A classified result column. -/
structure Column where
  name : String
  nativeType : String
  kind : ColumnKind
  deriving DecidableEq

def Column.ofMeta (column : ColumnMeta) : Column where
  name := column.name
  nativeType := column.typeName
  kind := ColumnKind.classify column.typeName

end SqlBridge
