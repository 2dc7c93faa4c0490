import SqlBridge.Text.CharRanges

/-!
# Blank characters and words

Blank means the Unicode property White_Space.  Texts are handled as lists of
characters, so that what a function takes and leaves can be followed by
recursion on the list.
-/

set_option autoImplicit false

namespace SqlBridge.Text

/-- The property White_Space. -/
def blankRanges : CharRanges :=
  [(0x0009, 0x000D), (0x0020, 0x0020), (0x0085, 0x0085), (0x00A0, 0x00A0), (0x1680, 0x1680),
    (0x2000, 0x200A), (0x2028, 0x2029), (0x202F, 0x202F), (0x205F, 0x205F), (0x3000, 0x3000)]

def isBlank (c : Char) : Bool :=
  blankRanges.contains c

def trimStart (text : List Char) : List Char :=
  text.dropWhile isBlank

theorem trimStart_length_le (text : List Char) : (trimStart text).length ≤ text.length :=
  (List.dropWhile_suffix isBlank).length_le

/-- The first run of characters that are not blank; empty when there is none. -/
def firstWord (text : List Char) : List Char :=
  (trimStart text).takeWhile fun c => !isBlank c

end SqlBridge.Text
