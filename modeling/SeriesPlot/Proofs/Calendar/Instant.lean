import SeriesPlot.Calendar.Instant
import SeriesPlot.Proofs.Calendar.Date

/-!
# `SeriesPlot.Proofs.Calendar.Instant`: instants, dates and times of day

An instant is a number of milliseconds within bounds. The theorems read it as a valid date and a
time of day, and back.

* `millis_eq`, `valid_date`: an instant is its time of day on its date, and the date is valid.
* `ofDate?_eq_some_iff`: what is found for a valid date and a time of day is the instant that has
  both. It is the only one (`date_of_millis_eq`).
* `representable_iff`, `exists_ofDate?_eq_some_iff`: the range of instants is one of whole years.
  All of such a year can be represented (`YearInRange`), and nothing of the other years. So a
  question about the range becomes one about a year.

Instants are in linear order. The instances at the top say so, and that the earlier and the later
of two are their minimum and maximum, so that the library's lemmas about the least and the
greatest element of a list apply to the edges of windows.
-/

set_option autoImplicit false

namespace SeriesPlot

namespace Instant

variable {t u : Instant}

/-- An instant is its milliseconds. The bounds make no difference. -/
theorem eq_of_millis_eq (h : t.millis = u.millis) : t = u := by
  obtain ⟨m, _, _⟩ := t
  obtain ⟨n, _, _⟩ := u
  obtain rfl : m = n := h
  rfl

/-! ### The order of instants -/

instance : Std.IsLinearOrder Instant where
  le_refl t := Int.le_refl t.millis
  le_trans _ _ _ := Int.le_trans
  le_antisymm _ _ hst hts := eq_of_millis_eq (Int.le_antisymm hst hts)
  le_total s t := Int.le_total s.millis t.millis

instance : Std.LawfulOrderMin Instant where
  min_eq_or s t := by
    show (if s ≤ t then s else t) = s ∨ (if s ≤ t then s else t) = t
    split <;> simp
  le_min_iff r s t := by
    show r ≤ (if s ≤ t then s else t) ↔ r ≤ s ∧ r ≤ t
    simp only [le_def]
    split <;> omega

instance : Std.LawfulOrderMax Instant where
  max_eq_or s t := by
    show (if s ≤ t then t else s) = s ∨ (if s ≤ t then t else s) = t
    split <;> simp
  max_le_iff s t r := by
    show (if s ≤ t then t else s) ≤ r ↔ s ≤ r ∧ t ≤ r
    simp only [le_def]
    split <;> omega

/-! ### Dates and times of day -/

/-- An instant is its time of day on its date. -/
theorem millis_eq (t : Instant) : t.millis = t.date.dayNumber * millisPerDay + t.millisOfDay := by
  rw [date, Date.dayNumber_ofDayNumber]
  unfold millisOfDay millisPerDay
  omega

/-- Every instant lies on a valid date. -/
theorem valid_date (t : Instant) : t.date.Valid := Date.valid_ofDayNumber _

/-- An instant that is found for a date and a time of day is at that time of that date. -/
theorem millis_of_ofDate? {d : Date} {millisOfDay : Nat} (h : ofDate? d millisOfDay = some u) :
    u.millis = d.dayNumber * millisPerDay + millisOfDay := by
  unfold ofDate? ofMillis? at h
  split at h
  · cases h
    rfl
  · cases h

/-- The time of day is what is left over of the days. -/
theorem millisOfDay_eq (t : Instant) : (t.millisOfDay : Int) = t.millis % millisPerDay :=
  Int.toNat_of_nonneg (Int.emod_nonneg _ (by decide))

/-- A later instant is in no earlier year. -/
theorem year_le_of_lt (h : t < u) : t.date.year ≤ u.date.year := by
  obtain ⟨hstart, -⟩ :=
    Calendar.daysBeforeYear_yearOf (t.millis / millisPerDay + Calendar.daysToEpoch)
  obtain ⟨-, hstop⟩ :=
    Calendar.daysBeforeYear_yearOf (u.millis / millisPerDay + Calendar.daysToEpoch)
  rw [lt_def] at h
  rw [date, date, Date.ofDayNumber_eq, Date.ofDayNumber_eq]
  dsimp only
  unfold Calendar.daysBeforeYear millisPerDay at *
  omega

/-! ### The years of the range -/

/-- The years that can be represented. -/
def YearInRange (year : Int) : Prop := -262143 ≤ year ∧ year ≤ 262142

instance (year : Int) : Decidable (YearInRange year) := inferInstanceAs (Decidable (_ ∧ _))

/-- The time of day is less than a day. -/
theorem millisOfDay_lt (t : Instant) : (t.millisOfDay : Int) < millisPerDay := by
  rw [millisOfDay_eq]
  exact Int.emod_lt_of_pos _ (by decide)

/-- The first representable millisecond is the first one of year -262143. -/
theorem earliestMillis_eq :
    earliestMillis = (Calendar.daysBeforeYear (-262143) - Calendar.daysToEpoch) * millisPerDay := by
  decide

/-- The last representable millisecond is the last one of year 262142. -/
theorem latestMillis_eq :
    latestMillis =
      (Calendar.daysBeforeYear (262142 + 1) - Calendar.daysToEpoch) * millisPerDay - 1 := by
  decide

/-- A time of day is representable iff the year of its date is. -/
theorem representable_iff {d : Date} (h : d.Valid) {millis : Nat}
    (hmillis : (millis : Int) < millisPerDay) :
    (earliestMillis ≤ d.dayNumber * millisPerDay + millis ∧
      d.dayNumber * millisPerDay + millis ≤ latestMillis) ↔ YearInRange d.year := by
  obtain ⟨hstart, hstop⟩ := Date.dayNumber_bounds h
  rw [earliestMillis_eq, latestMillis_eq]
  unfold YearInRange millisPerDay at *
  constructor
  · -- The years before and after the range end before it begins and begin after it ends.
    rintro ⟨hearliest, hlatest⟩
    refine ⟨Int.not_lt.mp fun hbefore => ?_, Int.not_lt.mp fun hafter => ?_⟩
    · have := Calendar.daysBeforeYear_le_of_le (Int.add_one_le_of_lt hbefore)
      omega
    · have := Calendar.daysBeforeYear_le_of_le (Int.add_one_le_of_lt hafter)
      omega
  · intro hrange
    have hfirst := Calendar.daysBeforeYear_le_of_le hrange.1
    have hlast := Calendar.daysBeforeYear_le_of_le (Int.add_le_add_right hrange.2 1)
    omega

/-- Every instant lies in a representable year. -/
theorem yearInRange_date (t : Instant) : YearInRange t.date.year := by
  rw [← representable_iff t.valid_date t.millisOfDay_lt, ← millis_eq]
  exact ⟨t.earliest_le, t.le_latest⟩

/-- No year has more than six digits. -/
theorem natAbs_year_lt (t : Instant) : t.date.year.natAbs < 1000000 := by
  obtain ⟨hfirst, hlast⟩ := t.yearInRange_date
  omega

/-- There is one way to take milliseconds for a valid date and a time of day. -/
theorem date_of_millis_eq {d : Date} (h : d.Valid) {millis : Nat}
    (hmillis : (millis : Int) < millisPerDay)
    (heq : t.millis = d.dayNumber * millisPerDay + millis) :
    t.date = d ∧ t.millisOfDay = millis := by
  have hday : t.millis / millisPerDay = d.dayNumber := by
    unfold millisPerDay at *
    omega
  constructor
  · rw [date, hday, Date.ofDayNumber_dayNumber h]
  · unfold millisOfDay millisPerDay at *
    omega

/-- What is found for a valid date and a time of day is the instant that has both. -/
theorem ofDate?_eq_some_iff {d : Date} (h : d.Valid) {millis : Nat}
    (hmillis : (millis : Int) < millisPerDay) :
    ofDate? d millis = some t ↔ t.date = d ∧ t.millisOfDay = millis := by
  constructor
  · exact fun hsome => date_of_millis_eq h hmillis (millis_of_ofDate? hsome)
  · rintro ⟨rfl, rfl⟩
    unfold ofDate? ofMillis?
    rw [dif_pos ((representable_iff h hmillis).mpr t.yearInRange_date)]
    exact congrArg some (eq_of_millis_eq t.millis_eq.symm)

/-- There is such an instant iff the year is representable. -/
theorem exists_ofDate?_eq_some_iff {d : Date} (h : d.Valid) {millis : Nat}
    (hmillis : (millis : Int) < millisPerDay) :
    (∃ t, ofDate? d millis = some t) ↔ YearInRange d.year := by
  rw [← representable_iff h hmillis]
  unfold ofDate? ofMillis?
  split
  · simp_all
  · simp_all

end Instant

end SeriesPlot
