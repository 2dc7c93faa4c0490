import SqlBridge.Float.Binary64

/-!
# Shortest decimals

The shortest decimal of a finite binary64 datum: the fewest significant digits
that still round to it, and among those the decimal nearest to the exact value.

The search is in exact natural-number arithmetic.  A magnitude `m * 2 ^ q` is
written as `exact * 10 ^ exponent`; then for one, two, … seventeen digits the
two neighbours of `exact` on that decimal grid are tried.  If any point of a
grid rounds to the datum, one of these two does.
-/

set_option autoImplicit false

namespace SqlBridge

/-- The number `coefficient * 10 ^ exponent`. -/
structure Decimal where
  coefficient : Nat
  exponent : Int
  deriving DecidableEq

/-- Which of two equally near decimals is taken. -/
inductive TieRule where
  | toEven
  | upward
  deriving DecidableEq

namespace Decimal

def digits (decimal : Decimal) : List Char :=
  Nat.toDigits 10 decimal.coefficient

/-- The exponent of the leading digit. -/
def leadingExponent (decimal : Decimal) : Int :=
  decimal.exponent + (decimal.digits.length : Int) - 1

/-- The same number with no zero at the end of its coefficient. -/
def stripZeros (coefficient : Nat) (exponent : Int) : Decimal :=
  if _inexact : coefficient = 0 ∨ coefficient % 10 ≠ 0 then
    ⟨coefficient, exponent⟩
  else
    stripZeros (coefficient / 10) (exponent + 1)
termination_by coefficient
decreasing_by omega

/-- A positive magnitude `exact * 10 ^ exponent` together with the reals that
round to it, which lie between `lower / 4` and `upper / 4` on the same scale. -/
structure RoundingRange where
  exact : Nat
  exponent : Int
  lower : Nat
  upper : Nat
  closed : Bool

namespace RoundingRange

/-- The ends belong to the range exactly when the significand is even. -/
def ofDatum (datum : Binary64) : RoundingRange :=
  let significand := datum.significand
  let below := if datum.isNarrowBelow then 1 else 2
  let unit :=
    if 0 ≤ datum.power then Nat.pow 2 datum.power.toNat else Nat.pow 5 (-datum.power).toNat
  { exact := significand * unit
    exponent := if 0 ≤ datum.power then 0 else datum.power
    lower := (4 * significand - below) * unit
    upper := (4 * significand + 2) * unit
    closed := significand % 2 == 0 }

def accepts (range : RoundingRange) (candidate : Nat) : Bool :=
  if range.closed then
    decide (range.lower ≤ 4 * candidate ∧ 4 * candidate ≤ range.upper)
  else
    decide (range.lower < 4 * candidate ∧ 4 * candidate < range.upper)

/-- The accepted multiple of `grid` nearest to the exact value, if there is one. -/
def nearest? (range : RoundingRange) (ties : TieRule) (grid : Nat) : Option Nat :=
  let floor := range.exact / grid * grid
  let ceiling := floor + grid
  match range.accepts floor, range.accepts ceiling with
  | false, false => none
  | true, false => some floor
  | false, true => some ceiling
  | true, true =>
    let down := range.exact - floor
    let up := ceiling - range.exact
    if down < up then some floor
    else if up < down then some ceiling
    else match ties with
      | .toEven => if range.exact / grid % 2 = 0 then some floor else some ceiling
      | .upward => some ceiling

/-- Seventeen digits always suffice, so the exact value is never needed as a
fallback; it makes the function total. -/
def shortest (range : RoundingRange) (ties : TieRule) : Decimal :=
  let width := (Nat.toDigits 10 range.exact).length
  let found := (List.range' 1 17).findSome? fun count =>
    range.nearest? ties (Nat.pow 10 (width - count))
  stripZeros (found.getD range.exact) range.exponent

end RoundingRange

/-- The shortest decimal of the magnitude of a finite datum. -/
def shortest (ties : TieRule) (datum : Binary64) : Decimal :=
  if datum.significand = 0 then ⟨0, 0⟩
  else (RoundingRange.ofDatum datum).shortest ties

end Decimal

end SqlBridge
