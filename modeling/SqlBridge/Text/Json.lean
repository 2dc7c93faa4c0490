import SqlBridge.Text.Hex
import SqlBridge.Float.Format
import SqlBridge.Value

/-!
# Compact JSON text

Values, lists of named values and the other records of this library as JSON
text without any space.  Strings escape the quote, the backslash and the
characters below U+0020; all else stands as it is.
-/

set_option autoImplicit false

namespace SqlBridge.Json

/-- Five control characters have a letter of their own. -/
def controlLetter? (c : Char) : Option Char :=
  if c.toNat = 0x08 then some 'b'
  else if c.toNat = 0x0C then some 'f'
  else if c = '\n' then some 'n'
  else if c = '\r' then some 'r'
  else if c = '\t' then some 't'
  else none

def escape (c : Char) : List Char :=
  if c = '"' then ['\\', '"']
  else if c = '\\' then ['\\', '\\']
  else if c.toNat < 0x20 then
    match controlLetter? c with
    | some letter => ['\\', letter]
    | none => '\\' :: 'u' :: Hex.padded 4 c.toNat
  else [c]

def quotedChars (text : List Char) : List Char :=
  '"' :: text.flatMap escape ++ ['"']

def quoted (text : String) : String :=
  String.ofList (quotedChars text.toList)

def array (items : List String) : String :=
  "[" ++ ",".intercalate items ++ "]"

/-- An object keeps the order of its entries, and repeated keys. -/
def object (entries : List (String × String)) : String :=
  "\x7b" ++ ",".intercalate (entries.map fun entry => quoted entry.1 ++ ":" ++ entry.2) ++ "\x7d"

/-- Leading exponents from -5 to 15 are positional, an explicit plus is written
above, and what is not finite is null. -/
def floatFormat : FloatFormat where
  leastPositional := -5
  greatestPositional := 15
  plusSign := true
  ties := .toEven
  notANumber := "null"
  infinity := "null"
  negativeInfinity := "null"

end SqlBridge.Json

namespace SqlBridge.Value

/-- A byte string is an array of numbers; identifiers and dates are strings. -/
def toJson : Value → String
  | null => "null"
  | bool b => if b then "true" else "false"
  | int n => toString n.toInt
  | float x => Json.floatFormat.render x
  | text s => Json.quoted s
  | bytes b => Json.array (b.data.toList.map fun byte => toString byte.toNat)
  | uuid u => Json.quoted u.text
  | dateTime d => Json.quoted d.text

end SqlBridge.Value
