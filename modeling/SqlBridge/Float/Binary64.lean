/-!
# Binary floating point by bit pattern

A floating-point datum is its bit pattern.  Two data are equal exactly when
their patterns are: a NaN equals itself, NaNs of different payload differ, and
so do the two zeros.  The fields of a pattern are read as natural numbers, and
no machine arithmetic is involved.
-/

set_option autoImplicit false

namespace SqlBridge

/-- A datum of the binary64 format. -/
structure Binary64 where
  bits : UInt64
  deriving DecidableEq, Inhabited

/-- A datum of the binary32 format. -/
structure Binary32 where
  bits : UInt32
  deriving DecidableEq, Inhabited

namespace Binary64

def isNegative (datum : Binary64) : Bool :=
  decide (Nat.pow 2 63 ≤ datum.bits.toNat)

def exponentField (datum : Binary64) : Nat :=
  datum.bits.toNat / Nat.pow 2 52 % Nat.pow 2 11

def fraction (datum : Binary64) : Nat :=
  datum.bits.toNat % Nat.pow 2 52

def isFinite (datum : Binary64) : Bool :=
  datum.exponentField != 2047

def isNaN (datum : Binary64) : Bool :=
  datum.exponentField == 2047 && datum.fraction != 0

/-- The pattern with the given fields; the fields are taken to be in range. -/
def ofFields (negative : Bool) (exponentField fraction : Nat) : Binary64 :=
  ⟨UInt64.ofNat
    ((if negative then Nat.pow 2 63 else 0) + exponentField * Nat.pow 2 52 + fraction)⟩

/-- A finite datum has magnitude `significand * 2 ^ power`. -/
def significand (datum : Binary64) : Nat :=
  if datum.exponentField = 0 then datum.fraction else Nat.pow 2 52 + datum.fraction

def power (datum : Binary64) : Int :=
  if datum.exponentField = 0 then -1074 else (datum.exponentField : Int) - 1075

/-- The neighbour below a power of two is half as far away as the one above,
save at the bottom of the range where the spacing no longer shrinks. -/
def isNarrowBelow (datum : Binary64) : Bool :=
  datum.fraction == 0 && decide (1 < datum.exponentField)

end Binary64

namespace Binary32

def isNegative (datum : Binary32) : Bool :=
  decide (Nat.pow 2 31 ≤ datum.bits.toNat)

def exponentField (datum : Binary32) : Nat :=
  datum.bits.toNat / Nat.pow 2 23 % Nat.pow 2 8

def fraction (datum : Binary32) : Nat :=
  datum.bits.toNat % Nat.pow 2 23

/-- The binary64 datum of the same value.  Every binary32 value has one.  A NaN
keeps its sign and payload and becomes quiet: the leading fraction bit is set. -/
def widen (datum : Binary32) : Binary64 :=
  let exponent := datum.exponentField
  let fraction := datum.fraction
  if exponent = 255 then
    let quietBit := if fraction ≠ 0 ∧ fraction < Nat.pow 2 22 then Nat.pow 2 51 else 0
    .ofFields datum.isNegative 2047 (quietBit + fraction * Nat.pow 2 29)
  else if exponent ≠ 0 then
    .ofFields datum.isNegative (exponent + 896) (fraction * Nat.pow 2 29)
  else if fraction = 0 then
    .ofFields datum.isNegative 0 0
  else
    let leading := fraction.log2
    .ofFields datum.isNegative (leading + 874)
      ((fraction - Nat.pow 2 leading) * Nat.pow 2 (52 - leading))

end Binary32

end SqlBridge
