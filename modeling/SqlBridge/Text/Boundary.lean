/-!
# Character boundaries

A text can be cut only between characters.  In UTF-8 a character takes up to four
bytes, so a cut after a number of bytes has to go back to the character boundary
before it.
-/

set_option autoImplicit false

namespace SqlBridge.Text

open String.Pos (Raw)

/-- The last boundary among the first bytes of a text, so many of them as given.
The search goes backwards from there. -/
def lastBoundary (text : String) : Nat → text.Pos
  | 0 => text.startPos
  | limit + 1 =>
    if valid : Raw.isValid text ⟨limit + 1⟩ then
      ⟨⟨limit + 1⟩, Raw.isValid_eq_true_iff.mp valid⟩
    else
      lastBoundary text limit

/-- The text as it is if it takes at most `limit` bytes, else what comes before the
last boundary among these. -/
def truncate (limit : Nat) (text : String) : String :=
  if text.utf8ByteSize ≤ limit then text
  else (text.sliceTo (lastBoundary text limit)).copy

end SqlBridge.Text
