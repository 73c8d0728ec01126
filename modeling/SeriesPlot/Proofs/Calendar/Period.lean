import SeriesPlot.Calendar.Months
import SeriesPlot.Proofs.Calendar.Instant

/-!
# `SeriesPlot.Proofs.Calendar.Period`: months and years one after the other

The months of the calendar have numbers in a row, and so have its years. `Period` is one of the
two kinds, and what is said of both is said once.

* `Period.number_addMonths`: a step of calendar months moves a date by as many periods, whatever
  day it is, although it may reach another day of the month.
* `Instant.bind_shiftMonths?_periodStart?`: so the first day of the period reached only depends
  on the number of the period that the step started from. This makes jumps from different days of
  a period the same.
* `Period.IsStart`: midnight on the first day of a period. A period has one start
  (`Period.IsStart.unique`), and a later period begins later (`Period.IsStart.lt`).
* `Period.exists_isStart_iff`: just the periods in the range have a start. The range is one of
  whole years, so it is one of whole months too.
-/

set_option autoImplicit false

namespace SeriesPlot

/-- The periods that the calendar is divided into. -/
inductive Period where
  | month
  | year
deriving DecidableEq

namespace Period

/-- The number of the period that a date is in. Months are counted from January of year 0. -/
def number : Period → Date → Int
  | month, d => d.monthNumber
  | year, d => d.year

/-- The first day of the period with a number. -/
def firstDay : Period → Int → Date
  | month, k => ⟨k / 12, (k % 12).toNat + 1, 1⟩
  | year, k => ⟨k, 1, 1⟩

/-- How many calendar months a period is long. -/
def months : Period → Int
  | month => 1
  | year => 12

/-- A month is one month long. -/
@[simp] theorem months_month : month.months = 1 := rfl

/-- A year is twelve months long. -/
@[simp] theorem months_year : year.months = 12 := rfl

/-- Whether a period can be represented. Then all of it can. -/
def InRange (p : Period) (k : Int) : Prop := Instant.YearInRange (p.firstDay k).year

instance (p : Period) (k : Int) : Decidable (p.InRange k) :=
  inferInstanceAs (Decidable (Instant.YearInRange _))

/-- Midnight on the first day of a period. -/
structure IsStart (p : Period) (k : Int) (t : Instant) : Prop where
  date : t.date = p.firstDay k
  midnight : t.millisOfDay = 0

variable {p : Period} {k l : Int} {d : Date} {t u : Instant}

/-- Every period has a first day. -/
theorem valid_firstDay (p : Period) (k : Int) : (p.firstDay k).Valid := by
  have hlength (year : Int) (month : Nat) :
      1 ≤ Calendar.daysInMonth (Calendar.isLeap year) month :=
    Nat.le_trans (by decide) (Calendar.daysInMonth_bounds _ _).1
  cases p with
  | month =>
    refine ⟨?_, ?_, Nat.le_refl _, hlength _ _⟩
    all_goals
      unfold firstDay
      dsimp only
      omega
  | year => exact ⟨Nat.le_refl 1, Nat.le_add_left 1 11, Nat.le_refl _, hlength _ _⟩

/-- The first day of a period lies in that period. -/
@[simp] theorem number_firstDay (p : Period) (k : Int) : p.number (p.firstDay k) = k := by
  cases p with
  | month =>
    unfold number firstDay Date.monthNumber
    dsimp only
    omega
  | year => rfl

/-- A year begins with the month whose number is twelve times its own. -/
theorem monthNumber_firstDay (p : Period) (k : Int) :
    (p.firstDay k).monthNumber = p.months * k := by
  cases p with
  | month =>
    show number month (firstDay month k) = _
    rw [number_firstDay, months_month, Int.one_mul]
  | year =>
    rw [months_year]
    unfold firstDay Date.monthNumber
    dsimp only
    omega

/-- The first day of a date's period is in its year. -/
theorem year_firstDay_number (p : Period) (h : d.Valid) :
    (p.firstDay (p.number d)).year = d.year := by
  cases p with
  | month => exact (Date.year_eq_monthNumber_ediv h).symm
  | year => rfl

example : month.firstDay (month.number ⟨-1, 12, 31⟩) = ⟨-1, 12, 1⟩ := by decide

/-- A step of calendar months leads as many periods on, whatever day of the period it is. -/
theorem number_addMonths (p : Period) (h : d.Valid) (n : Int) :
    p.number (d.addMonths (p.months * n)) = p.number d + n := by
  have hmonths := Date.monthNumber_addMonths d (p.months * n)
  cases p with
  | month =>
    show (d.addMonths _).monthNumber = d.monthNumber + n
    rw [hmonths, months_month, Int.one_mul]
  | year =>
    show (d.addMonths _).year = d.year + n
    rw [Date.year_eq_monthNumber_ediv (Date.valid_addMonths h _), hmonths,
      Date.year_eq_monthNumber_ediv h, months_year]
    omega

/-- The start of a period lies in it. -/
theorem IsStart.number_eq (h : p.IsStart k t) : p.number t.date = k := by
  rw [h.date, number_firstDay]

/-- A period has one start. -/
theorem IsStart.unique (h : p.IsStart k t) (h' : p.IsStart k u) : t = u := by
  apply Instant.eq_of_millis_eq
  rw [t.millis_eq, u.millis_eq, h.date, h'.date, h.midnight, h'.midnight]

/-- Later periods begin later. -/
theorem IsStart.lt (h : p.IsStart k t) (h' : p.IsStart l u) (hlt : k < l) : t < u := by
  have hmonths : (p.firstDay k).monthNumber < (p.firstDay l).monthNumber := by
    rw [monthNumber_firstDay, monthNumber_firstDay]
    cases p with
    | month => simpa using hlt
    | year => simpa using hlt
  have hdays := Date.dayNumber_lt_of_monthNumber_lt (p.valid_firstDay k) (p.valid_firstDay l)
    hmonths
  rw [Instant.lt_def, t.millis_eq, u.millis_eq, h.date, h'.date, h.midnight, h'.midnight]
  unfold Instant.millisPerDay
  omega

/-- The start of a period is midnight on its first day. -/
theorem isStart_iff : p.IsStart k t ↔ Instant.ofDate? (p.firstDay k) 0 = some t := by
  rw [Instant.ofDate?_eq_some_iff (p.valid_firstDay k) (by decide)]
  exact ⟨fun h => ⟨h.date, h.midnight⟩, fun ⟨hdate, hmidnight⟩ => ⟨hdate, hmidnight⟩⟩

/-- Just the periods in the range have a start that can be represented. -/
theorem exists_isStart_iff : (∃ t, p.IsStart k t) ↔ p.InRange k := by
  simp only [isStart_iff]
  exact Instant.exists_ofDate?_eq_some_iff (p.valid_firstDay k) (by decide)

end Period

namespace Instant

variable {p : Period} {k : Int} {t u : Instant}

/-- The start of the period with a number, if it is representable. -/
def periodStart? (p : Period) (k : Int) : Option Instant := ofDate? (p.firstDay k) 0

/-- What is found for the start of a period is its start. -/
theorem periodStart?_eq_some_iff : periodStart? p k = some t ↔ p.IsStart k t :=
  Period.isStart_iff.symm

/-- The start of an instant's month is the start of the period that the instant lies in. -/
theorem monthStart_eq (t : Instant) :
    some t.monthStart = periodStart? .month (Period.number .month t.date) := by
  -- The number of the month gives back the year and the month that it was made of.
  have hfirst : Period.firstDay .month (Period.number .month t.date) =
      ⟨t.date.year, t.date.month, 1⟩ := by
    obtain ⟨hmonth, hmonth', -, -⟩ := t.valid_date
    unfold Period.firstDay Period.number Date.monthNumber
    dsimp only
    congr 1 <;> omega
  have hvalid := Period.valid_firstDay .month (Period.number .month t.date)
  rw [hfirst] at hvalid
  obtain ⟨first, hsome⟩ : ∃ first, ofDate? ⟨t.date.year, t.date.month, 1⟩ 0 = some first :=
    (exists_ofDate?_eq_some_iff hvalid (by decide)).mpr t.yearInRange_date
  unfold periodStart? monthStart
  rw [hfirst, hsome]
  rfl

/-- From every day of a period, `n` periods on is in the same period. -/
theorem bind_shiftMonths?_periodStart? (t : Instant) (p : Period) (n : Int) :
    ((t.shiftMonths? (p.months * n)).bind fun u => periodStart? p (p.number u.date)) =
      periodStart? p (p.number t.date + n) := by
  have hvalid := Date.valid_addMonths t.valid_date (p.months * n)
  have hnumber := p.number_addMonths t.valid_date n
  have hyear := p.year_firstDay_number hvalid
  rw [hnumber] at hyear
  unfold shiftMonths?
  cases hshift : ofDate? (t.date.addMonths (p.months * n)) t.millisOfDay with
  | some u =>
    -- The day reached is in the period, so its number is that of the period.
    obtain ⟨hdate, -⟩ := (ofDate?_eq_some_iff hvalid t.millisOfDay_lt).mp hshift
    show periodStart? p (p.number u.date) = _
    rw [hdate, hnumber]
  | none =>
    -- The year reached is not in the range, and the period reached is in that year.
    cases hstart : periodStart? p (p.number t.date + n) with
    | none => rfl
    | some u =>
      have hrange := Period.exists_isStart_iff.mp ⟨u, periodStart?_eq_some_iff.mp hstart⟩
      unfold Period.InRange at hrange
      rw [hyear, ← exists_ofDate?_eq_some_iff hvalid t.millisOfDay_lt] at hrange
      obtain ⟨v, hv⟩ := hrange
      rw [hshift] at hv
      cases hv

end Instant

end SeriesPlot
