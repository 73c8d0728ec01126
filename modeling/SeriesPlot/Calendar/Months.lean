import SeriesPlot.Calendar.Instant

/-!
# `SeriesPlot.Calendar.Months`: calendar steps

Steps of whole months and years keep the time of day, and the day of the month
as far as the month reached has it. A year is twelve months.
-/

set_option autoImplicit false

namespace SeriesPlot.Instant

/-- The same time of day on the date `n` months later, if it is representable. -/
def shiftMonths? (t : Instant) (n : Int) : Option Instant :=
  ofDate? (t.date.addMonths n) t.millisOfDay

/-- `n` calendar months later. -/
def addMonths? (t : Instant) (n : Nat) : Option Instant := t.shiftMonths? n

/-- `n` calendar months earlier. -/
def subMonths? (t : Instant) (n : Nat) : Option Instant := t.shiftMonths? (-n)

/-- `n` calendar years later. -/
def addYears? (t : Instant) (n : Nat) : Option Instant := t.addMonths? (12 * n)

/-- `n` calendar years earlier. -/
def subYears? (t : Instant) (n : Nat) : Option Instant := t.subMonths? (12 * n)

/-- Midnight on the first day of a year, if it is representable. -/
def yearStart? (year : Int) : Option Instant := ofDate? ⟨year, 1, 1⟩ 0

/-- Midnight on the first day of the instant's month. It is always
representable, since the range begins at the start of a month. -/
def monthStart (t : Instant) : Instant :=
  (ofDate? ⟨t.date.year, t.date.month, 1⟩ 0).getD t

end SeriesPlot.Instant
