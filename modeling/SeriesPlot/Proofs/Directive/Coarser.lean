import SeriesPlot.Proofs.Calendar.WholeSeconds
import SeriesPlot.Proofs.Directive.Ticks
import SeriesPlot.Proofs.Update.Window

/-!
# `SeriesPlot.Proofs.Directive.Coarser`: wider windows have coarser labels

The breakpoints are in order from every instant on (`pairwise_breakpointsFrom`). A month is not
longer than 31 days and a year is not shorter than 365, and their average lengths are between
those, so it makes no difference which of the units the calendar ends before.

The labels serve the widths between two breakpoints, and the width counts in whole seconds. What
is compared is a rounded number of seconds without its fraction, but for lengths of time like
these the comparison comes out as for the exact number (`serves_iff`). The exact number has far
less than 53 digits, so it loses nothing as a `Binary64`, and where one of two widths is the
greater it has no finer labels (`Fits.coarseness_le`). That the labels of a width are the only
ones that fit it is the case of two equal widths.

* `ofWindow_eq_ite`: the breakpoints are tried one after the other, with the exact number.
* `ofWindow_eq_iff`: the labels of a window are the only ones that fit its width.
* `labels_coarsen_with_width`: all of it, for windows with the same start.
-/

set_option autoImplicit false

namespace SeriesPlot.TickLabels

open Binary64

/-- The breakpoints in seconds from an instant on, finest first. -/
def breakpointsFrom (t : Instant) : List Binary64 :=
  breakpoints.map fun (length, unit, _) => spanSeconds length unit t

/-- The breakpoints in hours and days are below those in months and years, and none of them is
a large number of seconds. -/
theorem breakpoints_in_order (t : Instant) :
    spanSeconds 8 .hour t < spanSeconds 5.99 .day t ∧
    spanSeconds 5.99 .day t < spanSeconds 4.516 .month t ∧
    spanSeconds 4.516 .month t < spanSeconds 6 .year t ∧
    spanSeconds 6 .year t ≤ ofInt (2 ^ 40 : Nat) := by
  have hall : ∀ month ∈ monthLengths, ∀ year ∈ yearLengths,
      (3600 : Binary64) * 8 < 86400 * 5.99 ∧ (86400 : Binary64) * 5.99 < month * 4.516 ∧
      month * 4.516 < year * 6 ∧ year * 6 ≤ ofInt (2 ^ 40 : Nat) := by
    decide +kernel
  exact hall _ (SpanUnit.secondsFrom_month_mem t) _ (SpanUnit.secondsFrom_year_mem t)

/-- The breakpoints increase, so no two of them are the same. -/
theorem pairwise_breakpointsFrom (t : Instant) : (breakpointsFrom t).Pairwise (· < ·) := by
  obtain ⟨hhours, hdays, hmonths, -⟩ := breakpoints_in_order t
  show [spanSeconds 8 .hour t, spanSeconds 5.99 .day t, spanSeconds 4.516 .month t,
    spanSeconds 6 .year t].Pairwise (· < ·)
  simp [hhours, hdays, hmonths, lt_trans hhours hdays, lt_trans hdays hmonths,
    lt_trans hhours (lt_trans hdays hmonths)]

/-- All breakpoints are below the widths at which whole seconds are not exact. -/
theorem spanSeconds_le_limit {breakpoint : Binary64 × SpanUnit × TickLabels}
    (h : breakpoint ∈ breakpoints) (t : Instant) :
    spanSeconds breakpoint.1 breakpoint.2.1 t ≤ ofInt (2 ^ 40 : Nat) := by
  obtain ⟨hhours, hdays, hmonths, hyears⟩ := breakpoints_in_order t
  have hmonthsLimit := le_trans (lt_iff.mp hmonths).1 hyears
  have hdaysLimit := le_trans (lt_iff.mp hdays).1 hmonthsLimit
  simp only [breakpoints, List.mem_cons, List.not_mem_nil, or_false] at h
  rcases h with rfl | rfl | rfl | rfl
  · exact le_trans (lt_iff.mp hhours).1 hdaysLimit
  · exact hdaysLimit
  · exact hmonthsLimit
  · exact hyears

/-! ### The width in whole seconds -/

/-- A width is a positive number of milliseconds, of at most 54 digits. -/
theorem exists_widthMillis_eq (w : Window) :
    ∃ n : Nat, w.widthMillis = n ∧ w.widthMillis / 1000 = (n / 1000 : Nat) ∧
      1 ≤ n ∧ n < 2 ^ 54 := by
  have hpos := w.widthMillis_pos
  have hstart := w.start.earliest_le
  have hstop := w.stop.le_latest
  have hwidth : w.widthMillis = w.stop.millis - w.start.millis := rfl
  unfold Instant.earliestMillis at hstart
  unfold Instant.latestMillis at hstop
  exact ⟨w.widthMillis.toNat, by omega, by omega, by omega, by omega⟩

/-- A breakpoint serves a window iff it is not below the exact number of whole seconds. -/
theorem serves_iff (w : Window) {breakpoint : Binary64 × SpanUnit × TickLabels}
    (h : breakpoint ∈ breakpoints) :
    serves w breakpoint = true ↔
      ofInt (w.widthMillis / 1000) ≤ spanSeconds breakpoint.1 breakpoint.2.1 w.start := by
  obtain ⟨n, hn, hwhole, hpos, hlimit⟩ := exists_widthMillis_eq w
  have hseconds : w.seconds = ofInt n / 1000 := by
    rw [← hn]
    rfl
  unfold serves
  rw [decide_eq_true_iff, hseconds, hwhole]
  exact trunc_in_seconds_le_iff (spanSeconds_le_limit h w.start) hpos hlimit

/-! ### Labels and breakpoints -/

/-- How many labels are finer. -/
def coarseness : TickLabels → Nat
  | minutes => 0
  | hours => 1
  | days => 2
  | months => 3
  | years => 4

/-- Labels are for the widths above the breakpoint before theirs, up to their own. The width is
in seconds. -/
def Fits (t : Instant) (width : Binary64) : TickLabels → Prop
  | minutes => width ≤ spanSeconds 8 .hour t
  | hours => spanSeconds 8 .hour t < width ∧ width ≤ spanSeconds 5.99 .day t
  | days => spanSeconds 5.99 .day t < width ∧ width ≤ spanSeconds 4.516 .month t
  | months => spanSeconds 4.516 .month t < width ∧ width ≤ spanSeconds 6 .year t
  | years => spanSeconds 6 .year t < width

/-- The first of four breakpoints that serves decides. -/
private theorem find?_table (p : Binary64 × SpanUnit × TickLabels → Bool) (a b c d : Binary64) :
    (([(a, .hour, minutes), (b, .day, hours), (c, .month, days), (d, .year, months)].find? p).map
        (·.2.2)).getD years =
      if p (a, .hour, minutes) then minutes
      else if p (b, .day, hours) then hours
      else if p (c, .month, days) then days
      else if p (d, .year, months) then months
      else years := by
  simp only [List.find?_cons, List.find?_nil]
  cases p (a, .hour, minutes) <;> cases p (b, .day, hours) <;>
    cases p (c, .month, days) <;> cases p (d, .year, months) <;> rfl

/-- The breakpoints are tried one after the other, with the exact number of whole seconds. -/
theorem ofWindow_eq_ite (w : Window) :
    ofWindow w =
      if ofInt (w.widthMillis / 1000) ≤ spanSeconds 8 .hour w.start then minutes
      else if ofInt (w.widthMillis / 1000) ≤ spanSeconds 5.99 .day w.start then hours
      else if ofInt (w.widthMillis / 1000) ≤ spanSeconds 4.516 .month w.start then days
      else if ofInt (w.widthMillis / 1000) ≤ spanSeconds 6 .year w.start then months
      else years := by
  have hserves := fun breakpoint (h : breakpoint ∈ breakpoints) => serves_iff w h
  simp only [breakpoints, List.forall_mem_cons, List.not_mem_nil, false_implies, implies_true,
    and_true] at hserves
  obtain ⟨hminutes, hhours, hdays, hmonths⟩ := hserves
  simp only [← hminutes, ← hhours, ← hdays, ← hmonths]
  exact find?_table (serves w) 8 5.99 4.516 6

/-- The labels of a window fit its width. -/
theorem fits_ofWindow (w : Window) : (ofWindow w).Fits w.start (ofInt (w.widthMillis / 1000)) := by
  obtain ⟨hhours, hdays, hmonths, hyears⟩ := breakpoints_in_order w.start
  have habove : ∀ {b c : Binary64}, b ≤ c → ¬ofInt (w.widthMillis / 1000) ≤ b →
      b < ofInt (w.widthMillis / 1000) := fun hbc =>
    (lt_iff_not_le (ne_nan_of_le hbc).1 (ofRatio_ne_nan _ _ _)).mpr
  -- Each comparison that fails puts the width above one breakpoint more.
  rw [ofWindow_eq_ite]
  split
  · assumption
  · rename_i hminutes
    split
    · exact ⟨habove (lt_iff.mp hhours).1 hminutes, ‹_›⟩
    · rename_i hhoursNot
      split
      · exact ⟨habove (lt_iff.mp hdays).1 hhoursNot, ‹_›⟩
      · rename_i hdaysNot
        split
        · exact ⟨habove (lt_iff.mp hmonths).1 hdaysNot, ‹_›⟩
        · exact habove hyears ‹_›

/-- Of two widths the greater has no finer labels. -/
theorem Fits.coarseness_le {t : Instant} {x y : Binary64} (hxy : x ≤ y) {labels other : TickLabels}
    (hx : labels.Fits t x) (hy : other.Fits t y) : labels.coarseness ≤ other.coarseness := by
  obtain ⟨hhours, hdays, hmonths, -⟩ := breakpoints_in_order t
  have habove : ∀ {b : Binary64}, b < x → ¬y ≤ b := fun hb hyb =>
    (lt_iff.mp hb).2 (le_trans hxy hyb)
  -- A width below a breakpoint is below the later ones.
  have hlater : ∀ {b c : Binary64}, b < c → y ≤ b → y ≤ c := fun hbc hyb =>
    le_trans hyb (lt_iff.mp hbc).1
  have hhoursLater := hlater hhours
  have hdaysLater := hlater hdays
  have hmonthsLater := hlater hmonths
  cases labels with
  | minutes => exact Nat.zero_le _
  | hours | days | months =>
    have hnot := habove hx.1
    cases other <;> simp_all [Fits, coarseness]
  | years =>
    have hnot := habove hx
    cases other <;> simp_all [Fits, coarseness]

/-- No two labels are of the same coarseness. -/
theorem coarseness_inj {labels other : TickLabels} (h : labels.coarseness = other.coarseness) :
    labels = other := by
  cases labels <;> cases other <;> first | rfl | exact absurd h (by decide)

/-- The labels of a window are the only ones that fit its width. -/
theorem ofWindow_eq_iff {w : Window} {labels : TickLabels} :
    ofWindow w = labels ↔ labels.Fits w.start (ofInt (w.widthMillis / 1000)) := by
  have hfits := fits_ofWindow w
  constructor
  · rintro rfl
    exact hfits
  · intro h
    have hrefl : ofInt (w.widthMillis / 1000) ≤ ofInt (w.widthMillis / 1000) :=
      (le_total (ofRatio_ne_nan _ _ _) (ofRatio_ne_nan _ _ _)).elim id id
    exact coarseness_inj
      (Nat.le_antisymm (hfits.coarseness_le hrefl h) (h.coarseness_le hrefl hfits))

/-- A greater width is not fewer seconds. -/
theorem ofInt_width_le {w v : Window} (h : w.widthMillis ≤ v.widthMillis) :
    ofInt (w.widthMillis / 1000) ≤ ofInt (v.widthMillis / 1000) := by
  obtain ⟨n, hn, hwhole, -, hlimit⟩ := exists_widthMillis_eq w
  obtain ⟨k, hk, hotherWhole, -, hotherLimit⟩ := exists_widthMillis_eq v
  rw [hwhole, hotherWhole]
  exact (ofInt_le_ofInt_iff (by omega) (by omega)).mpr (by omega)

/-- From every instant on the breakpoints are in order, the labels of a window are those that
its width in whole seconds is for, and a wider window from the same start has no finer ones. -/
theorem labels_coarsen_with_width (t : Instant) :
    (breakpointsFrom t).Pairwise (· < ·) ∧
    ∀ w : Window, w.start = t →
      (∀ labels, ofWindow w = labels ↔ labels.Fits t (ofInt (w.widthMillis / 1000))) ∧
      ∀ v : Window, v.start = t → w.widthMillis ≤ v.widthMillis →
        (ofWindow w).coarseness ≤ (ofWindow v).coarseness := by
  refine ⟨pairwise_breakpointsFrom t, fun w hw => ⟨fun labels => ?_, fun v hv hle => ?_⟩⟩
  · rw [ofWindow_eq_iff, hw]
  · have hwFits := fits_ofWindow w
    have hvFits := fits_ofWindow v
    rw [hw] at hwFits
    rw [hv] at hvFits
    exact hwFits.coarseness_le (ofInt_width_le hle) hvFits

/-- The start of June in the last year. The next year is not representable, but the next month
is. -/
def lastJune : Instant := ⟨8210248387200000, by decide, by decide⟩

/-- One hour of that month. -/
def firstHour : Window := ⟨lastJune, ⟨8210248390800000, by decide, by decide⟩, by decide⟩

/-- All that is left of the calendar from there. -/
def restOfYear : Window := ⟨lastJune, ⟨Instant.latestMillis, by decide, by decide⟩, by decide⟩

/-- The last of the breakpoints is one in average years here, and the third one in months. -/
theorem labels_coarsen_with_width_in_last_year :
    lastJune.addYears? 1 = none ∧ lastJune.addMonths? 1 ≠ none ∧
    ofWindow firstHour = .minutes ∧ ofWindow restOfYear = .months ∧
    (ofWindow firstHour).coarseness ≤ (ofWindow restOfYear).coarseness := by
  have hfirst := (labels_coarsen_with_width lastJune).2 firstHour rfl
  have hrest := (labels_coarsen_with_width lastJune).2 restOfYear rfl
  refine ⟨by decide, by decide, (hfirst.1 .minutes).mpr ?_, (hrest.1 .months).mpr ?_,
    hfirst.2 restOfYear rfl (by decide)⟩
  · show (_ : Binary64) ≤ _
    decide +kernel
  · show (_ : Binary64) < _ ∧ (_ : Binary64) ≤ _
    decide +kernel

end SeriesPlot.TickLabels
