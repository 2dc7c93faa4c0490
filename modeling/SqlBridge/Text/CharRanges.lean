/-!
# Ranges of characters

A set of characters as the list of its ranges of code points, ends included.
-/

set_option autoImplicit false

namespace SqlBridge.Text

abbrev CharRanges := List (Nat × Nat)

def CharRanges.contains (ranges : CharRanges) (c : Char) : Bool :=
  ranges.any fun range => decide (range.1 ≤ c.toNat ∧ c.toNat ≤ range.2)

end SqlBridge.Text
