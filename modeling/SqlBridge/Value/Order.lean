import SqlBridge.Value.Map

/-!
# An order on values

Values of different constructors are ordered by constructor; within one, truth
values and integers go by size, floats by their bit pattern, texts and byte
strings by their bytes, identifiers by their bytes, and dates by time.  A map is
listed in the order of its keys.
-/

set_option autoImplicit false

namespace SqlBridge

namespace Value

/-- Numbers whose lexicographic order is the order of values.  The first tells
the constructor. -/
def orderKey : Value → List Int
  | null => [0]
  | bool b => [1, if b then 1 else 0]
  | int n => [2, n.toInt]
  | float x => [3, x.bits.toNat]
  | text s => 4 :: s.toUTF8.data.toList.map fun byte => (byte.toNat : Int)
  | bytes b => 5 :: b.data.toList.map fun byte => (byte.toNat : Int)
  | uuid u => [6, u.value.toNat]
  | dateTime d =>
    [7, d.year, d.month, d.day, d.hour * 3600 + d.minute * 60 + d.second, d.nanosecond]

def keyLe : List Int → List Int → Bool
  | [], _ => true
  | _ :: _, [] => false
  | a :: as, b :: bs => decide (a < b) || (decide (a = b) && keyLe as bs)

end Value

/-- The entries of a map in the order of their keys. -/
def ValueMap.sortedEntries (map : ValueMap) : List (Value × Value) :=
  map.toList.mergeSort fun a b => Value.keyLe a.1.orderKey b.1.orderKey

end SqlBridge
