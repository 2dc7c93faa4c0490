import SqlBridge.Text.Hex

/-!
# Universally unique identifiers

Sixteen bytes held as one word, the first byte most significant.  The written
form is hyphenated, in groups of 8, 4, 4, 4 and 12 digits.
-/

set_option autoImplicit false

namespace SqlBridge

structure Uuid where
  value : BitVec 128
  deriving DecidableEq

namespace Uuid

def groupWidths : List Nat := [8, 4, 4, 4, 12]

/-- Cuts a text into pieces of the given widths. -/
def cut : List Nat → List Char → List (List Char)
  | [], _ => []
  | width :: widths, text => text.take width :: cut widths (text.drop width)

def text (uuid : Uuid) : String :=
  String.ofList (['-'].intercalate (cut groupWidths (Hex.padded 32 uuid.value.toNat)))

/-- Reads the hyphenated form, digits in either case. -/
def ofText? (written : String) : Option Uuid := do
  let groups := written.toList.splitBy fun left right => left != '-' && right != '-'
  let digits := groups.filter fun group => group != ['-']
  if groups.length = 9 ∧ digits.map List.length = groupWidths then
    return ⟨BitVec.ofNat 128 (← Hex.number? digits.flatten)⟩
  else
    none

end Uuid

end SqlBridge
