import Std.Data.HashMap
import SqlBridge.Value

/-!
# Maps keyed by values

A hash map from values to values.  The two updates also answer what the key
held before.
-/

set_option autoImplicit false

namespace SqlBridge

abbrev ValueMap := Std.HashMap Value Value

namespace ValueMap

def empty : ValueMap := ∅

/-- Files `value` under `key`; the value that it replaces is handed back. -/
def put (map : ValueMap) (key value : Value) : Option Value × ValueMap :=
  (map[key]?, map.insert key value)

/-- Takes the entry of `key` out; its value is handed back. -/
def take (map : ValueMap) (key : Value) : Option Value × ValueMap :=
  (map[key]?, map.erase key)

def lookup (map : ValueMap) (key : Value) : Option Value :=
  map[key]?

/-- What can be done with a map, as data. -/
inductive Operation where
  | insert (key value : Value)
  | get (key : Value)
  | remove (key : Value)
  deriving DecidableEq

namespace Operation

def key : Operation → Value
  | insert key _ => key
  | get key => key
  | remove key => key

/-- The answer of an operation and the map afterwards. -/
def step : Operation → ValueMap → Option Value × ValueMap
  | insert key value, map => map.put key value
  | get key, map => (map.lookup key, map)
  | remove key, map => map.take key

end Operation

/-- The answers of operations that follow each other, each with the size of the map after it. -/
def answers : List Operation → ValueMap → List (Option Value × Nat)
  | [], _ => []
  | operation :: rest, map =>
    let (answer, later) := operation.step map
    (answer, later.size) :: answers rest later

end ValueMap

end SqlBridge
