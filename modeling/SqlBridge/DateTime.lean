/-!
# Calendar date and time of day

A proleptic Gregorian date with a time of day and no time zone.  A leap second
is kept as the second before it with a nanosecond field of a thousand million or
more, and is written with the next number.
-/

set_option autoImplicit false

namespace SqlBridge

namespace Calendar

def isLeapYear (year : Int) : Bool :=
  decide (year % 4 = 0 ∧ (year % 100 ≠ 0 ∨ year % 400 = 0))

def daysInMonth (year : Int) (month : Nat) : Nat :=
  if month = 2 then (if isLeapYear year then 29 else 28)
  else if month ∈ [4, 6, 9, 11] then 30
  else 31

end Calendar

structure DateTime where
  year : Int
  month : Nat
  day : Nat
  hour : Nat
  minute : Nat
  second : Nat
  nanosecond : Nat
  year_in_range : -262143 ≤ year ∧ year ≤ 262142
  month_in_range : 1 ≤ month ∧ month ≤ 12
  day_in_range : 1 ≤ day ∧ day ≤ Calendar.daysInMonth year month
  time_in_range : hour < 24 ∧ minute < 60 ∧ second < 60
  nanosecond_in_range : nanosecond < 2000000000
  deriving DecidableEq

namespace DateTime

/-- The fields below the year. -/
def fields (d : DateTime) : List Nat :=
  [d.month, d.day, d.hour, d.minute, d.second, d.nanosecond]

/-- The moment with the given fields, if they name one. -/
def ofFields? (year : Int) (month day hour minute second nanosecond : Nat) : Option DateTime :=
  if valid : (-262143 ≤ year ∧ year ≤ 262142) ∧ (1 ≤ month ∧ month ≤ 12) ∧
      (1 ≤ day ∧ day ≤ Calendar.daysInMonth year month) ∧ (hour < 24 ∧ minute < 60 ∧ second < 60) ∧
      nanosecond < 2000000000 then
    some ⟨year, month, day, hour, minute, second, nanosecond,
      valid.1, valid.2.1, valid.2.2.1, valid.2.2.2.1, valid.2.2.2.2⟩
  else
    none

/-- Decimal digits with zeros in front up to the given width. -/
def padded (width n : Nat) : List Char :=
  let digits := Nat.toDigits 10 n
  List.replicate (width - digits.length) '0' ++ digits

/-- Years 0 to 9999 have four digits; any other has a sign and at least four. -/
def yearText (year : Int) : List Char :=
  if 0 ≤ year ∧ year ≤ 9999 then padded 4 year.toNat
  else (if year < 0 then '-' else '+') :: padded 4 year.natAbs

/-- The fewest of 0, 3, 6 or 9 digits that are exact. -/
def fractionText (nanoseconds : Nat) : List Char :=
  if nanoseconds = 0 then []
  else if nanoseconds % 1000000 = 0 then '.' :: padded 3 (nanoseconds / 1000000)
  else if nanoseconds % 1000 = 0 then '.' :: padded 6 (nanoseconds / 1000)
  else '.' :: padded 9 nanoseconds

def text (d : DateTime) : String :=
  let date := yearText d.year ++ '-' :: padded 2 d.month ++ '-' :: padded 2 d.day
  let seconds := d.second + d.nanosecond / 1000000000
  let time := padded 2 d.hour ++ ':' :: padded 2 d.minute ++ ':' :: padded 2 seconds
  String.ofList (date ++ 'T' :: time ++ fractionText (d.nanosecond % 1000000000))

end DateTime

end SqlBridge
