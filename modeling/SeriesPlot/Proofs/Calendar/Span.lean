import SeriesPlot.Calendar.Span
import SeriesPlot.Proofs.Calendar.Instant

/-!
# `SeriesPlot.Proofs.Calendar.Span`: how long a month and a year can be

A length in months or years is measured from an instant. Where the next month or year is
representable, it is a whole number of days later at the same time of day
(`millis_sub_of_shiftMonths?`). Near the end of the calendar the average length stands in. So a
unit of either kind has one of few lengths, whatever instant it begins at:

* `secondsFrom_month_mem`: 28 to 31 days, or the average of a month.
* `secondsFrom_year_mem`: 365 or 366 days, or the average of a year.

The lists are short enough to compare each member with the breakpoints of the time labels, which
`Proofs/Directive/Coarser.lean` does.
-/

set_option autoImplicit false

namespace SeriesPlot

namespace Instant

variable {t u : Instant}

/-- A calendar step is a whole number of days. -/
theorem millis_sub_of_shiftMonths? {n : Int} (h : t.shiftMonths? n = some u) :
    u.millis - t.millis =
      ((t.date.addMonths n).dayNumber - t.date.dayNumber) * millisPerDay := by
  rw [millis_of_ofDate? h, t.millis_eq, Int.sub_mul]
  omega

end Instant

/-- The seconds in some days. -/
def secondsOfDays (days : Nat) : Binary64 :=
  Binary64.ofInt (days * Instant.millisPerDay) / 1000

/-- The lengths that a month can have. -/
def monthLengths : List Binary64 :=
  [secondsOfDays 28, secondsOfDays 29, secondsOfDays 30, secondsOfDays 31, averageMonthSeconds]

/-- The lengths that a year can have. -/
def yearLengths : List Binary64 := [secondsOfDays 365, secondsOfDays 366, averageYearSeconds]

namespace SpanUnit

/-- A unit is as many days as the calendar step by it. -/
theorem secondsBetween_of_shiftMonths? {t u : Instant} {n : Int} (h : t.shiftMonths? n = some u)
    {days : Nat} (hdays : (t.date.addMonths n).dayNumber = t.date.dayNumber + days) :
    secondsBetween t u = secondsOfDays days := by
  have hdiff : (t.date.addMonths n).dayNumber - t.date.dayNumber = days := by omega
  rw [secondsBetween, Instant.millis_sub_of_shiftMonths? h, hdiff, secondsOfDays]

/-- A month has one of the lengths listed, from whatever instant it is counted. -/
theorem secondsFrom_month_mem (t : Instant) : month.secondsFrom t ∈ monthLengths := by
  unfold secondsFrom
  cases hnext : t.addMonths? 1 with
  | none => simp [monthLengths]
  | some u =>
    obtain ⟨hleast, hmost⟩ := Date.dayNumber_addMonths_one t.valid_date
    obtain ⟨days, hdays⟩ : ∃ days : Nat,
        (t.date.addMonths 1).dayNumber = t.date.dayNumber + days :=
      ⟨((t.date.addMonths 1).dayNumber - t.date.dayNumber).toNat, by omega⟩
    rw [Option.map_some, Option.getD_some, secondsBetween_of_shiftMonths? hnext hdays]
    -- Naming the four lengths leaves nothing to compute.
    rcases (by omega : days = 28 ∨ days = 29 ∨ days = 30 ∨ days = 31) with
      rfl | rfl | rfl | rfl <;>
    simp [monthLengths]

/-- So has a year. -/
theorem secondsFrom_year_mem (t : Instant) : year.secondsFrom t ∈ yearLengths := by
  unfold secondsFrom
  cases hnext : t.addYears? 1 with
  | none => simp [yearLengths]
  | some u =>
    obtain ⟨hleast, hmost⟩ := Date.dayNumber_addMonths_twelve t.valid_date
    obtain ⟨days, hdays⟩ : ∃ days : Nat,
        (t.date.addMonths 12).dayNumber = t.date.dayNumber + days :=
      ⟨((t.date.addMonths 12).dayNumber - t.date.dayNumber).toNat, by omega⟩
    rw [Option.map_some, Option.getD_some, secondsBetween_of_shiftMonths? hnext hdays]
    rcases (by omega : days = 365 ∨ days = 366) with rfl | rfl <;>
    simp [yearLengths]

end SpanUnit

end SeriesPlot
