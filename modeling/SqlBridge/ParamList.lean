import SqlBridge.Text.Json

/-!
# Parameter lists

Named parameters in binding order.  A name may occur more than once; a look-up
answers the first.
-/

set_option autoImplicit false

namespace SqlBridge

/-- A parameter; its placeholder includes the leading colon. -/
structure Param where
  placeholder : String
  value : Value
  deriving DecidableEq

structure ParamList where
  params : List Param
  deriving DecidableEq

namespace ParamList

def empty : ParamList := ⟨[]⟩

instance : Inhabited ParamList := ⟨empty⟩

def size (list : ParamList) : Nat :=
  list.params.length

def isEmpty (list : ParamList) : Bool :=
  list.params.isEmpty

def add (list : ParamList) (placeholder : String) (value : Value) : ParamList :=
  ⟨list.params ++ [⟨placeholder, value⟩]⟩

/-- Adds a parameter and answers the position that it has taken. -/
def push (list : ParamList) (placeholder : String) (value : Value) : Nat × ParamList :=
  (list.size, list.add placeholder value)

def append (list more : ParamList) : ParamList :=
  ⟨list.params ++ more.params⟩

instance : Append ParamList := ⟨append⟩

@[simp] theorem params_add (list : ParamList) (placeholder : String) (value : Value) :
    (list.add placeholder value).params = list.params ++ [⟨placeholder, value⟩] := rfl

@[simp] theorem params_append (list more : ParamList) :
    (list ++ more).params = list.params ++ more.params := rfl

theorem size_add (list : ParamList) (placeholder : String) (value : Value) :
    (list.add placeholder value).size = list.size + 1 := by
  simp [size]

theorem size_append (list more : ParamList) : (list ++ more).size = list.size + more.size := by
  simp [size]

def get? (list : ParamList) (placeholder : String) : Option Value :=
  (list.params.find? fun param => param.placeholder == placeholder).map Param.value

/-- An empty list counts as no parameters at all: a statement whose parameters
were bound beforehand keeps them only when none are handed over with the run. -/
def supplied? (list : ParamList) : Option ParamList :=
  if list.isEmpty then none else some list

/-- An object keyed by placeholder, in order and with repeated keys. -/
def toJson (list : ParamList) : String :=
  Json.object (list.params.map fun param => (param.placeholder, param.value.toJson))

end ParamList

end SqlBridge
