import SqlBridge.Float.Shortest

/-!
# Written form of floating-point data

A `FloatFormat` holds every decision between the shortest decimal and the text:
which magnitudes are written positionally, how the exponent is introduced, and
the words for what is not finite.
-/

set_option autoImplicit false

namespace SqlBridge

structure FloatFormat where
  leastPositional : Int
  greatestPositional : Int
  plusSign : Bool
  ties : TieRule
  notANumber : String
  infinity : String
  negativeInfinity : String

namespace FloatFormat

/-- Plain decimal, with `.0` after an integer. -/
def positional (decimal : Decimal) : List Char :=
  let digits := decimal.digits
  if 0 ≤ decimal.exponent then
    digits ++ List.replicate decimal.exponent.toNat '0' ++ ['.', '0']
  else
    let places := (-decimal.exponent).toNat
    if places < digits.length then
      digits.take (digits.length - places) ++ '.' :: digits.drop (digits.length - places)
    else
      '0' :: '.' :: List.replicate (places - digits.length) '0' ++ digits

/-- One digit before the point, no point without a digit after it. -/
def scientific (format : FloatFormat) (decimal : Decimal) : List Char :=
  let mantissa := match decimal.digits with
    | [] => []
    | [digit] => [digit]
    | digit :: rest => digit :: '.' :: rest
  let exponent := decimal.leadingExponent
  let sign := if exponent < 0 then ['-'] else if format.plusSign then ['+'] else []
  mantissa ++ 'e' :: sign ++ Nat.toDigits 10 exponent.natAbs

def magnitude (format : FloatFormat) (decimal : Decimal) : List Char :=
  let exponent := decimal.leadingExponent
  if decimal.coefficient = 0 ∨
      (format.leastPositional ≤ exponent ∧ exponent ≤ format.greatestPositional) then
    positional decimal
  else
    format.scientific decimal

def render (format : FloatFormat) (datum : Binary64) : String :=
  if datum.isFinite then
    let sign := if datum.isNegative then ['-'] else []
    String.ofList (sign ++ format.magnitude (Decimal.shortest format.ties datum))
  else if datum.isNaN then format.notANumber
  else if datum.isNegative then format.negativeInfinity
  else format.infinity

end FloatFormat

end SqlBridge
