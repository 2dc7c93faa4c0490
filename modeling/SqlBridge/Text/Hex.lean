/-!
# Hexadecimal digits

Lower case when written, either case when read.
-/

set_option autoImplicit false

namespace SqlBridge.Hex

def digit (n : Nat) : Char :=
  if n < 10 then Char.ofNat ('0'.toNat + n) else Char.ofNat ('a'.toNat + (n - 10))

def value? (c : Char) : Option Nat :=
  if '0' ≤ c ∧ c ≤ '9' then some (c.toNat - '0'.toNat)
  else if 'a' ≤ c ∧ c ≤ 'f' then some (c.toNat - 'a'.toNat + 10)
  else if 'A' ≤ c ∧ c ≤ 'F' then some (c.toNat - 'A'.toNat + 10)
  else none

/-- The last `width` digits of a number, most significant first. -/
def padded : Nat → Nat → List Char
  | 0, _ => []
  | width + 1, n => padded width (n / 16) ++ [digit (n % 16)]

/-- The number written by a list of digits, or nothing if one of them is none. -/
def number? (text : List Char) : Option Nat :=
  text.foldlM (fun total c => do return total * 16 + (← value? c)) 0

/-- Two digits for each byte. -/
def ofBytes (bytes : ByteArray) : String :=
  String.ofList (bytes.data.toList.flatMap fun byte => padded 2 byte.toNat)

/-- Reads digits in pairs; an odd digit at the end is refused. -/
def bytes? : List Char → Option (List UInt8)
  | [] => some []
  | high :: low :: rest => do
    let byte ← number? [high, low]
    let bytes ← bytes? rest
    return UInt8.ofNat byte :: bytes
  | [_] => none

end SqlBridge.Hex
