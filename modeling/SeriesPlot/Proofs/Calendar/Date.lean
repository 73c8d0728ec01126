import SeriesPlot.Calendar.Date

/-!
# `SeriesPlot.Proofs.Calendar.Date`: dates and day numbers

Days are counted by numbers. `Date.ofDayNumber` finds the year by an estimate and the month
by a search, and the theorems say that this is the inverse of counting the days.

* `dayNumber_ofDayNumber`, `valid_ofDayNumber`: the date of a day number has that number and is
  valid.
* `eq_of_dayNumber_eq`, `ofDayNumber_dayNumber`: different valid dates have different numbers, so
  the other round trip holds too. The reason is `dayNumber_lt_of_monthNumber_lt`: a date in a
  later month is a later date.
* `addMonths_eq`: a date some months later is known from its number of months since year 0. The
  day is kept as far as the month reached has it.
* `dayNumber_addMonths_one`, `dayNumber_addMonths_twelve`: the date in the next month is 28 to 31
  days away, and that in the next year 365 or 366 days. That holds for the last days of a month
  too, where the day reached is not the one started from.

The proofs count the days before a year and before a month (`daysBeforeYear_succ`,
`daysBeforeMonth_succ`), and everything else follows from these being in order.
-/

set_option autoImplicit false

namespace SeriesPlot

namespace Calendar

/-- The length of a year. -/
theorem daysBeforeYear_succ (year : Int) :
    daysBeforeYear (year + 1) = daysBeforeYear year + if isLeap year then 366 else 365 := by
  unfold daysBeforeYear isLeap
  simp only [Bool.and_eq_true, Bool.or_eq_true, decide_eq_true_eq]
  split <;> omega

/-- A later year begins no earlier. -/
theorem daysBeforeYear_le_of_le {m n : Int} (h : m ≤ n) : daysBeforeYear m ≤ daysBeforeYear n := by
  unfold daysBeforeYear
  omega

/-- The months of a year are as long as the year. -/
theorem daysBeforeMonth_thirteen (leap : Bool) :
    daysBeforeMonth leap 13 = if leap then 366 else 365 := by
  cases leap <;> rfl

/-- A month is followed by the next one without a gap. -/
theorem daysBeforeMonth_succ {leap : Bool} {month : Nat} (h : 1 ≤ month) :
    daysBeforeMonth leap (month + 1) = daysBeforeMonth leap month + daysInMonth leap month := by
  obtain ⟨month, rfl⟩ := Nat.exists_eq_add_of_le' h
  rfl

/-- A later month begins no earlier. -/
theorem daysBeforeMonth_le_of_le {leap : Bool} {m n : Nat} (h : m ≤ n) :
    daysBeforeMonth leap m ≤ daysBeforeMonth leap n := by
  induction h with
  | refl => exact Nat.le_refl _
  | @step n hle ih =>
    refine Nat.le_trans ih ?_
    cases n with
    | zero => exact Nat.le_refl _
    | succ n => exact Nat.le_add_right _ _

/-- Every month has 28 to 31 days. -/
theorem daysInMonth_bounds (leap : Bool) (month : Nat) :
    28 ≤ daysInMonth leap month ∧ daysInMonth leap month ≤ 31 := by
  unfold daysInMonth
  split <;> (try split) <;> omega

/-- The month and the day that are found have the number of the day in the year. -/
theorem monthDay_eq (leap : Bool) (dayOfYear month : Nat) :
    1 ≤ (monthDay leap dayOfYear month).1 ∧
      (monthDay leap dayOfYear month).1 ≤ max 1 month ∧
      1 ≤ (monthDay leap dayOfYear month).2 ∧
      daysBeforeMonth leap (monthDay leap dayOfYear month).1 +
        (monthDay leap dayOfYear month).2 = dayOfYear + 1 := by
  -- The search goes down from `month`, as the induction does.
  induction month with
  | zero => simp [monthDay, daysBeforeMonth]
  | succ month ih =>
    unfold monthDay
    split
    · dsimp only
      exact ⟨by omega, by omega, by omega, by omega⟩
    · omega

/-- The day is one of the month, if the day of the year is one of the months searched. -/
theorem monthDay_day_le {leap : Bool} {dayOfYear month : Nat}
    (h : dayOfYear < daysBeforeMonth leap (month + 1)) :
    (monthDay leap dayOfYear month).2 ≤
      daysInMonth leap (monthDay leap dayOfYear month).1 := by
  induction month with
  | zero => simp [daysBeforeMonth] at h
  | succ month ih =>
    unfold monthDay
    split
    · rw [daysBeforeMonth_succ (by omega)] at h
      dsimp only
      omega
    · exact ih (by omega)

end Calendar

namespace Date

open Calendar

/-- The day of its year on which a day number lies, counted from zero. -/
def dayOfYear (n : Int) : Nat :=
  (n + daysToEpoch - daysBeforeYear (yearOf (n + daysToEpoch))).toNat

/-- The date of a day is its year, and the month and day of the day of that year. -/
theorem ofDayNumber_eq (n : Int) :
    let year := yearOf (n + daysToEpoch)
    ofDayNumber n = ⟨year, (monthDay (isLeap year) (dayOfYear n) 12).1,
      (monthDay (isLeap year) (dayOfYear n) 12).2⟩ := rfl

/-- The year that is found contains the day. -/
theorem dayOfYear_eq (n : Int) :
    daysBeforeYear (yearOf (n + daysToEpoch)) + dayOfYear n = n + daysToEpoch ∧
      dayOfYear n < daysBeforeMonth (isLeap (yearOf (n + daysToEpoch))) 13 := by
  obtain ⟨hstart, hstop⟩ := daysBeforeYear_yearOf (n + daysToEpoch)
  rw [daysBeforeYear_succ] at hstop
  rw [daysBeforeMonth_thirteen]
  unfold dayOfYear
  split at hstop <;> constructor <;> simp_all <;> omega

/-- The date of a day number has that number. -/
theorem dayNumber_ofDayNumber (n : Int) : (ofDayNumber n).dayNumber = n := by
  obtain ⟨hyear, -⟩ := dayOfYear_eq n
  obtain ⟨-, -, -, hday⟩ := monthDay_eq (isLeap (yearOf (n + daysToEpoch))) (dayOfYear n) 12
  rw [ofDayNumber_eq]
  unfold dayNumber
  dsimp only
  omega

/-- Every day number is the number of a valid date. -/
theorem valid_ofDayNumber (n : Int) : (ofDayNumber n).Valid := by
  obtain ⟨-, hyear⟩ := dayOfYear_eq n
  obtain ⟨hmonth, hmonth', hday, -⟩ :=
    monthDay_eq (isLeap (yearOf (n + daysToEpoch))) (dayOfYear n) 12
  exact ⟨hmonth, Nat.le_trans hmonth' (by decide), hday, monthDay_day_le hyear⟩

/-! ### A month and a year later -/

variable {d : Date}

/-- The date some months later is known from its number of months since year 0. The day is the
same as far as the month reached has it. -/
theorem addMonths_eq {n year : Int} {month : Nat} (hmonth : 1 ≤ month ∧ month ≤ 12)
    (h : 12 * d.year + (d.month - 1 : Nat) + n = 12 * year + (month - 1 : Nat)) :
    d.addMonths n = ⟨year, month, min d.day (daysInMonth (isLeap year) month)⟩ := by
  have hyear : (12 * d.year + (d.month - 1 : Nat) + n) / 12 = year := by omega
  have hmonth : ((12 * d.year + (d.month - 1 : Nat) + n) % 12).toNat + 1 = month := by omega
  unfold addMonths
  dsimp only
  rw [hyear, hmonth]

example : addMonths ⟨2013, 3, 31⟩ (-13) = ⟨2012, 2, 29⟩ := by decide

/-- The next month is 28 to 31 days later. -/
theorem dayNumber_addMonths_one (h : d.Valid) :
    d.dayNumber + 28 ≤ (d.addMonths 1).dayNumber ∧
      (d.addMonths 1).dayNumber ≤ d.dayNumber + 31 := by
  obtain ⟨hmonth, hmonth', hday, hday'⟩ := h
  have hlength := daysInMonth_bounds (isLeap d.year) d.month
  -- From December the step also goes to the next year, but both months have 31 days.
  by_cases hdecember : d.month = 12
  · have hnext : d.addMonths 1 = ⟨d.year + 1, 1, min d.day 31⟩ :=
      addMonths_eq (by decide) (by omega)
    have hmonths : daysBeforeMonth (isLeap d.year) 13 =
        daysBeforeMonth (isLeap d.year) 12 + 31 := rfl
    have hfirst : daysBeforeMonth (isLeap (d.year + 1)) 1 = 0 := rfl
    have hthis : daysInMonth (isLeap d.year) 12 = 31 := rfl
    rw [daysBeforeMonth_thirteen] at hmonths
    rw [hdecember, hthis] at hday'
    rw [hnext, dayNumber, dayNumber, daysBeforeYear_succ, hdecember, hfirst]
    dsimp only
    cases hleap : isLeap d.year <;>
      simp only [hleap, if_true, Bool.false_eq_true, if_false] at hmonths ⊢ <;> omega
  · have hnext : d.addMonths 1 =
        ⟨d.year, d.month + 1, min d.day (daysInMonth (isLeap d.year) (d.month + 1))⟩ :=
      addMonths_eq (by omega) (by omega)
    have hlength' := daysInMonth_bounds (isLeap d.year) (d.month + 1)
    rw [hnext, dayNumber, dayNumber, daysBeforeMonth_succ hmonth]
    dsimp only
    omega

/-- The leap day is the last of February. -/
theorem leap_eq (leap : Bool) {month : Nat} (h : 1 ≤ month ∧ month ≤ 12) :
    (month ≤ 2 → daysBeforeMonth leap month = daysBeforeMonth false month) ∧
      (2 < month → daysBeforeMonth leap month = daysBeforeMonth false month + leap.toNat) ∧
      (month = 2 → daysInMonth leap month = daysInMonth false month + leap.toNat) ∧
      (month ≠ 2 → daysInMonth leap month = daysInMonth false month) := by
  have hall : ∀ m < 13, 1 ≤ m → ∀ leap,
      (m ≤ 2 → daysBeforeMonth leap m = daysBeforeMonth false m) ∧
      (2 < m → daysBeforeMonth leap m = daysBeforeMonth false m + leap.toNat) ∧
      (m = 2 → daysInMonth leap m = daysInMonth false m + leap.toNat) ∧
      (m ≠ 2 → daysInMonth leap m = daysInMonth false m) := by decide
  exact hall month (by omega) h.1 leap

/-- The next year is 365 or 366 days later. -/
theorem dayNumber_addMonths_twelve (h : d.Valid) :
    d.dayNumber + 365 ≤ (d.addMonths 12).dayNumber ∧
      (d.addMonths 12).dayNumber ≤ d.dayNumber + 366 := by
  obtain ⟨hmonth, hmonth', hday, hday'⟩ := h
  have hnext : d.addMonths 12 =
      ⟨d.year + 1, d.month, min d.day (daysInMonth (isLeap (d.year + 1)) d.month)⟩ :=
    addMonths_eq ⟨hmonth, hmonth'⟩ (by omega)
  have hthis := leap_eq (isLeap d.year) ⟨hmonth, hmonth'⟩
  have hthat := leap_eq (isLeap (d.year + 1)) ⟨hmonth, hmonth'⟩
  -- Two leap years never follow each other, so the year and the day of the month do not
  -- both gain or lose the leap day.
  have hnot : ¬(isLeap d.year = true ∧ isLeap (d.year + 1) = true) := by
    unfold isLeap
    simp only [Bool.and_eq_true, Bool.or_eq_true, decide_eq_true_eq]
    omega
  rw [hnext, dayNumber, dayNumber, daysBeforeYear_succ]
  dsimp only
  cases hleap : isLeap d.year <;> cases hleap' : isLeap (d.year + 1) <;>
    simp only [hleap, hleap', Bool.toNat_true, Bool.toNat_false, if_true, Bool.false_eq_true,
      if_false, and_self, not_true_eq_false] at * <;>
    omega

/-! ### Dates in order -/

/-- The months since January of year 0. -/
def monthNumber (d : Date) : Int := 12 * d.year + (d.month - 1 : Nat)

/-- The number of a month says in which year it is. -/
theorem year_eq_monthNumber_ediv (h : d.Valid) : d.year = d.monthNumber / 12 := by
  obtain ⟨hmonth, hmonth', -, -⟩ := h
  unfold monthNumber
  omega

/-- A date some months later is valid, since its day is cut off at the end of the month. -/
theorem valid_addMonths (h : d.Valid) (n : Int) : (d.addMonths n).Valid := by
  obtain ⟨-, -, hday, -⟩ := h
  unfold addMonths Valid
  dsimp only
  have hlength := daysInMonth_bounds
    (isLeap ((12 * d.year + (d.month - 1 : Nat) + n) / 12))
    (((12 * d.year + (d.month - 1 : Nat) + n) % 12).toNat + 1)
  omega

/-- Calendar months are counted by the numbers of the months, whatever the day is. -/
theorem monthNumber_addMonths (d : Date) (n : Int) :
    (d.addMonths n).monthNumber = d.monthNumber + n := by
  unfold addMonths monthNumber
  dsimp only
  omega

/-- The days of a date's year up to it, itself counted, end within its month. -/
theorem daysBeforeMonth_add_day_le (h : d.Valid) {month : Nat} (hlater : d.month < month) :
    daysBeforeMonth (isLeap d.year) d.month + d.day ≤ daysBeforeMonth (isLeap d.year) month := by
  obtain ⟨hmonth, -, -, hday⟩ := h
  calc daysBeforeMonth (isLeap d.year) d.month + d.day
    _ ≤ daysBeforeMonth (isLeap d.year) (d.month + 1) := by
        rw [daysBeforeMonth_succ hmonth]
        omega
    _ ≤ daysBeforeMonth (isLeap d.year) month := daysBeforeMonth_le_of_le hlater

/-- A date lies within its year. -/
theorem dayNumber_bounds (h : d.Valid) :
    daysBeforeYear d.year ≤ d.dayNumber + daysToEpoch ∧
      d.dayNumber + daysToEpoch < daysBeforeYear (d.year + 1) := by
  have hyear := daysBeforeMonth_add_day_le h (Nat.lt_succ_of_le h.2.1)
  obtain ⟨-, -, hday, -⟩ := h
  rw [Nat.succ_eq_add_one, daysBeforeMonth_thirteen] at hyear
  rw [daysBeforeYear_succ]
  unfold dayNumber
  split at hyear <;> simp_all <;> omega

/-- A date in a later month is a later date. -/
theorem dayNumber_lt_of_monthNumber_lt {d' : Date} (h : d.Valid) (h' : d'.Valid)
    (hlt : d.monthNumber < d'.monthNumber) : d.dayNumber < d'.dayNumber := by
  obtain ⟨-, hstop⟩ := dayNumber_bounds h
  obtain ⟨hstart, -⟩ := dayNumber_bounds h'
  -- The years decide, or else the months of one year do.
  have hyears : d.year < d'.year ∨ d.year = d'.year ∧ d.month < d'.month := by
    obtain ⟨hmonth, hmonth', -, -⟩ := h
    obtain ⟨hmonthLater, hmonthLater', -, -⟩ := h'
    unfold monthNumber at hlt
    omega
  rcases hyears with hyear | ⟨hyear, hmonth⟩
  · have hbetween := daysBeforeYear_le_of_le (Int.add_one_le_of_lt hyear)
    omega
  · have hdays := daysBeforeMonth_add_day_le h hmonth
    obtain ⟨-, -, hday, -⟩ := h'
    unfold dayNumber
    rw [← hyear]
    omega

/-- Different valid dates have different numbers. -/
theorem eq_of_dayNumber_eq {d' : Date} (h : d.Valid) (h' : d'.Valid)
    (heq : d.dayNumber = d'.dayNumber) : d = d' := by
  -- In different months the numbers would differ, and in one month only the day is left.
  have hmonths : d.monthNumber = d'.monthNumber := by
    rcases Int.lt_trichotomy d.monthNumber d'.monthNumber with hlt | hmonths | hlt
    · have := dayNumber_lt_of_monthNumber_lt h h' hlt
      omega
    · exact hmonths
    · have := dayNumber_lt_of_monthNumber_lt h' h hlt
      omega
  have hyear : d.year = d'.year := by
    rw [year_eq_monthNumber_ediv h, year_eq_monthNumber_ediv h', hmonths]
  have hmonth : d.month = d'.month := by
    obtain ⟨hmonth, -, -, -⟩ := h
    obtain ⟨hmonth', -, -, -⟩ := h'
    unfold monthNumber at hmonths
    omega
  have hday : d.day = d'.day := by
    unfold dayNumber at heq
    rw [hyear, hmonth] at heq
    omega
  obtain ⟨year, month, day⟩ := d
  obtain ⟨year', month', day'⟩ := d'
  simp_all

/-- The date of the number of a valid date is that date. -/
theorem ofDayNumber_dayNumber (h : d.Valid) : ofDayNumber d.dayNumber = d :=
  eq_of_dayNumber_eq (valid_ofDayNumber _) h (dayNumber_ofDayNumber _)

example : ofDayNumber 11016 = ⟨2000, 2, 29⟩ := by decide

end Date

end SeriesPlot
