import SqlBridge.Session.Basic
import SqlBridge.Update.Query

/-!
# Binding parameters

Values are bound to a handle under their placeholders.  Literal fields are
bound by number; byte strings among them, and texts for large-object columns,
go over as blobs.  A blob is held from before it is bound until it is released,
so the holder is not empty as soon as one was offered to the engine.
-/

set_option autoImplicit false

namespace SqlBridge

/-- The large objects bound during one execute call. -/
structure BlobHolder where
  blobs : List ByteArray := []
  deriving DecidableEq

namespace BlobHolder

def empty : BlobHolder := {}

def hold (holder : BlobHolder) (blob : ByteArray) : BlobHolder :=
  ⟨holder.blobs ++ [blob]⟩

def size (holder : BlobHolder) : Nat :=
  holder.blobs.length

def isEmpty (holder : BlobHolder) : Bool :=
  holder.blobs.isEmpty

end BlobHolder

namespace Session

variable {σ : Type} (engine : Engine σ)

/-- Arguments go under their own names, in order. -/
def bindParams (handle : Handle) : List Param → Step (Session σ) Unit
  | [] => return ()
  | param :: rest => do
    bindValue engine handle param.placeholder param.value
    bindParams handle rest

def bindArguments (handle : Handle) (arguments : ParamList) : Step (Session σ) Unit :=
  bindParams engine handle arguments.params

/-- Binds the arguments of every expression, and takes each expression's field
out of the literals once its arguments are bound. -/
def bindExpressions (handle : Handle) :
    Fields Expression → Step (Fields Value × Session σ) Unit
  | [] => return ()
  | (field, expression) :: rest => do
    bindArguments engine handle expression.arguments
    Step.changeOwn (Fields.without field)
    bindExpressions handle rest

/-- The bytes of a value that is to be bound as a large object. -/
def blobOf? (info : ColumnInformation) (field : String) (value : Value) : Option ByteArray :=
  if value.isBlob || info.isBlob field then value.toBytes? else none

def bindLiteral (handle : Handle) (info : ColumnInformation) (placeholder field : String)
    (value : Value) : Step (BlobHolder × Session σ) Unit := do
  match blobOf? info field value with
  | some blob =>
    Step.changeOwn fun holder => holder.hold blob
    bindBlob engine handle placeholder blob
  | none => bindValue engine handle placeholder value

/-- Literal fields from a number on: the prefix followed by the number names the
placeholder. -/
def bindLiteralsFrom (handle : Handle) (info : ColumnInformation) (placeholder : Nat → String) :
    Nat → Fields Value → Step (BlobHolder × Session σ) Unit
  | _, [] => return ()
  | number, (field, value) :: rest => do
    bindLiteral engine handle info (placeholder number) field value
    bindLiteralsFrom handle info placeholder (number + 1) rest

def bindLiterals (handle : Handle) (info : ColumnInformation) (placeholder : Nat → String)
    (literals : Fields Value) : Step (BlobHolder × Session σ) Unit :=
  bindLiteralsFrom engine handle info placeholder 0 literals

/-- Ends the engine's use of what the holder holds.  With nothing held there is
nothing to end. -/
def releaseHeld (handle : Handle) (holder : BlobHolder) : Step (Session σ) Unit :=
  if holder.isEmpty then return () else releaseBlobs engine handle

end Session

end SqlBridge
