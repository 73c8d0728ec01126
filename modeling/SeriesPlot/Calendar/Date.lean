/-!
# `SeriesPlot.Calendar.Date`: the Gregorian calendar

Dates of the Gregorian calendar, extended to all years before and after its
introduction; year 0 is the year before year 1. A date and its day number, the
days since 1970-01-01, determine each other.

* `Date.dayNumber`: from a date to its day number.
* `Date.ofDayNumber`: from a day number to the date.
* `daysBeforeYear_yearOf`: the year found for a day begins on or before it and
  ends after it.
-/

set_option autoImplicit false

namespace SeriesPlot

/-- A day of the calendar. Months and days count from 1. -/
structure Date where
  year : Int
  month : Nat
  day : Nat
deriving DecidableEq, Inhabited

namespace Calendar

/-- Every fourth year is a leap year, except the centuries that 400 does not divide. -/
def isLeap (year : Int) : Bool :=
  year % 4 = 0 && (year % 100 ≠ 0 || year % 400 = 0)

/-- The length of a month. -/
def daysInMonth (leap : Bool) : Nat → Nat
  | 2 => if leap then 29 else 28
  | 4 | 6 | 9 | 11 => 30
  | _ => 31

/-- The days of a year before a month. -/
def daysBeforeMonth (leap : Bool) : Nat → Nat
  | 0 => 0
  | 1 => 0
  | month + 2 => daysBeforeMonth leap (month + 1) + daysInMonth leap (month + 1)

/-- The days from the start of year 1 to the start of a year. -/
def daysBeforeYear (year : Int) : Int :=
  365 * (year - 1) + (year - 1) / 4 - (year - 1) / 100 + (year - 1) / 400

/-- The day number of 0001-01-01, negated: the days from it to 1970-01-01. -/
def daysToEpoch : Int := 719162

/-- The year that contains a day, given in days since the start of year 1. The
average length of a year is 146097 / 400 days, which misses by at most one year. -/
def yearOf (days : Int) : Int :=
  let estimate := days * 400 / 146097 + 1
  if days < daysBeforeYear estimate then estimate - 1
  else if daysBeforeYear (estimate + 1) ≤ days then estimate + 1
  else estimate

/-- The year that is found for a day is the one that the day lies in. -/
theorem daysBeforeYear_yearOf (days : Int) :
    daysBeforeYear (yearOf days) ≤ days ∧ days < daysBeforeYear (yearOf days + 1) := by
  unfold yearOf daysBeforeYear
  dsimp only
  split
  · constructor <;> omega
  · split <;> constructor <;> omega

/-- The month and day of the `dayOfYear`-th day of a year, counted from zero:
the last of the months up to `month` that has begun by then. -/
def monthDay (leap : Bool) (dayOfYear : Nat) : Nat → Nat × Nat
  | 0 => (1, dayOfYear + 1)
  | month + 1 =>
    if daysBeforeMonth leap (month + 1) ≤ dayOfYear then
      (month + 1, dayOfYear - daysBeforeMonth leap (month + 1) + 1)
    else monthDay leap dayOfYear month

end Calendar

namespace Date

open Calendar

/-- A month of the year and a day of that month. -/
def Valid (d : Date) : Prop :=
  1 ≤ d.month ∧ d.month ≤ 12 ∧ 1 ≤ d.day ∧ d.day ≤ daysInMonth (isLeap d.year) d.month

instance (d : Date) : Decidable d.Valid :=
  inferInstanceAs (Decidable (_ ∧ _ ∧ _ ∧ _))

/-- The days since 1970-01-01. -/
def dayNumber (d : Date) : Int :=
  daysBeforeYear d.year + daysBeforeMonth (isLeap d.year) d.month + d.day - 1 - daysToEpoch

/-- The date of a day number. -/
def ofDayNumber (n : Int) : Date :=
  let days := n + daysToEpoch
  let year := yearOf days
  let (month, day) := monthDay (isLeap year) (days - daysBeforeYear year).toNat 12
  ⟨year, month, day⟩

/-- The date `n` calendar months later. A day past the end of the month reached
is moved to its last day. -/
def addMonths (d : Date) (n : Int) : Date :=
  let months := 12 * d.year + (d.month - 1 : Nat) + n
  let year := months / 12
  let month := (months % 12).toNat + 1
  ⟨year, month, min d.day (daysInMonth (isLeap year) month)⟩

end Date

end SeriesPlot
