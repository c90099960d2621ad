/-!
# Dates

Days of the Gregorian calendar, extended to the years before it, and their numbers counted from the
first of January 1970. `ofDay` finds the date of a day number.
-/

namespace RecordQuery

namespace Date

def isLeapYear (y : Int) : Bool := y % 4 == 0 && (y % 100 != 0 || y % 400 == 0)

def daysInMonth (y : Int) (m : Nat) : Nat :=
  if m = 2 then if isLeapYear y then 29 else 28
  else if m = 4 ∨ m = 6 ∨ m = 9 ∨ m = 11 then 30
  else 31

def firstYear : Int := -262143

def lastYear : Int := 262142

end Date

structure Date where
  year : Int
  month : Nat
  day : Nat
  year_ge : Date.firstYear ≤ year
  year_le : year ≤ Date.lastYear
  month_pos : 1 ≤ month
  month_le : month ≤ 12
  day_pos : 1 ≤ day
  day_le : day ≤ Date.daysInMonth year month
deriving DecidableEq

namespace Date

def ofParts? (year : Int) (month day : Nat) : Option Date :=
  if h : firstYear ≤ year ∧ year ≤ lastYear ∧ 1 ≤ month ∧ month ≤ 12 ∧ 1 ≤ day ∧
      day ≤ daysInMonth year month then
    some ⟨year, month, day, h.1, h.2.1, h.2.2.1, h.2.2.2.1, h.2.2.2.2.1, h.2.2.2.2.2⟩
  else none

/-- The days of the first months of a year. -/
def daysOfMonths (y : Int) : Nat → Nat
  | 0 => 0
  | m + 1 => daysOfMonths y m + daysInMonth y (m + 1)

/-- The days from the first of January 1970 to that of a year. -/
def daysBeforeYear (y : Int) : Int :=
  365 * (y - 1970) + ((y - 1) / 4 - (y - 1) / 100 + (y - 1) / 400) - 477

/-- The number of a date; that of the first of January 1970 is zero. -/
def number (y : Int) (m d : Nat) : Int := daysBeforeYear y + daysOfMonths y (m - 1) + d - 1

def dayNumber (d : Date) : Int := number d.year d.month d.day

def firstDay : Int := number firstYear 1 1

def lastDay : Int := number lastYear 12 31

/-- The month and day of the day that is `n` days into a year, searched from month `m` on. -/
def monthFrom (y : Int) : Nat → Nat → Nat → Nat × Nat
  | 0, m, n => (m, n + 1)
  | k + 1, m, n =>
    if n < daysInMonth y m then (m, n + 1) else monthFrom y k (m + 1) (n - daysInMonth y m)

/-- The year of a day number: the quotient by the mean length of a year is at most one year off. -/
def yearOfDay (n : Int) : Int :=
  let guess := 1970 + n * 400 / 146097
  if n < daysBeforeYear guess then guess - 1
  else if daysBeforeYear (guess + 1) ≤ n then guess + 1
  else guess

def ofDay (n : Int) : Int × Nat × Nat :=
  let y := yearOfDay n
  (y, monthFrom y 12 1 (n - daysBeforeYear y).toNat)

end Date

end RecordQuery
