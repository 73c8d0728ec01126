import SeriesPlot.Directive.Ticks
import SeriesPlot.Proofs.Binary64.Order
import SeriesPlot.Proofs.Calendar.Span

/-!
# `SeriesPlot.Proofs.Directive.Ticks`: how far the labels depend on the width alone

Two breakpoints of the labels are measured in hours and days, which are the same length
from everywhere (`TickLabels.spanSeconds_fixed`). The other two are measured in months and years
from the start of the window. So windows of one width can have different labels, but only if the
width is between what the breakpoint is from the shortest month or year and what it is from the
longest (`TickLabels.dependsOnStart_of_ofWindow_ne`).

The labels are those of the first breakpoint that serves (`TickLabels.ofWindow_eq`). Windows with
different labels are therefore on different sides of one of the four
(`TickLabels.exists_serves_ne_of_ofWindow_ne`), and each of these has few lengths.
-/

set_option autoImplicit false

namespace SeriesPlot.TickLabels

/-- Whether a breakpoint is at the width of a window or beyond it. -/
def serves (w : Window) (breakpoint : Binary64 × SpanUnit × TickLabels) : Bool :=
  w.seconds.trunc ≤ spanSeconds breakpoint.1 breakpoint.2.1 w.start

/-- The first breakpoint that serves decides about the labels. -/
theorem ofWindow_eq (w : Window) :
    ofWindow w = ((breakpoints.find? (serves w)).map (·.2.2)).getD years := rfl

/-- Windows with different labels are on different sides of a breakpoint. -/
theorem exists_serves_ne_of_ofWindow_ne {w v : Window} (h : ofWindow w ≠ ofWindow v) :
    ∃ breakpoint ∈ breakpoints, serves w breakpoint ≠ serves v breakpoint := by
  by_cases hall : ∀ breakpoint ∈ breakpoints, serves w breakpoint = serves v breakpoint
  · rw [ofWindow_eq, ofWindow_eq, ← List.head?_filter, ← List.head?_filter,
      List.filter_congr hall] at h
    exact absurd rfl h
  · simpa using hall

/-- The width of a window that some month or year breakpoints are below and others not.
In whole seconds, these are the widths above 126.448 days and up to 139.996 days, and
those above 2190 days and up to 2196 days. -/
def DependsOnStart (w : Window) : Prop :=
  (¬w.seconds.trunc ≤ secondsOfDays 28 * 4.516 ∧ w.seconds.trunc ≤ secondsOfDays 31 * 4.516) ∨
    (¬w.seconds.trunc ≤ secondsOfDays 365 * 6 ∧ w.seconds.trunc ≤ secondsOfDays 366 * 6)

/-- The breakpoint in months is one of few, between those of the shortest and the longest month.
-/
theorem spanSeconds_month_bounds (t : Instant) :
    secondsOfDays 28 * 4.516 ≤ spanSeconds 4.516 .month t ∧
      spanSeconds 4.516 .month t ≤ secondsOfDays 31 * 4.516 := by
  have hall : ∀ length ∈ monthLengths, secondsOfDays 28 * 4.516 ≤ length * 4.516 ∧
      length * 4.516 ≤ secondsOfDays 31 * 4.516 := by
    -- Rounding is monotone, but five products are sooner computed than that is shown.
    decide +kernel
  exact hall _ (SpanUnit.secondsFrom_month_mem t)

/-- The breakpoint in years is one of two. -/
theorem spanSeconds_year_bounds (t : Instant) :
    secondsOfDays 365 * 6 ≤ spanSeconds 6 .year t ∧
      spanSeconds 6 .year t ≤ secondsOfDays 366 * 6 := by
  have hall : ∀ length ∈ yearLengths, secondsOfDays 365 * 6 ≤ length * 6 ∧
      length * 6 ≤ secondsOfDays 366 * 6 := by
    decide +kernel
  exact hall _ (SpanUnit.secondsFrom_year_mem t)

/-- A number between two bounds, if one is below it and the other is not. -/
private theorem between_of_decide_ne {x low high a b : Binary64} (ha : low ≤ a ∧ a ≤ high)
    (hb : low ≤ b ∧ b ≤ high) (h : decide (x ≤ a) ≠ decide (x ≤ b)) : ¬x ≤ low ∧ x ≤ high := by
  by_cases hxa : x ≤ a
  · have hxb : ¬x ≤ b := by simpa [hxa] using h
    exact ⟨fun hx => hxb (Binary64.le_trans hx hb.1), Binary64.le_trans hxa ha.2⟩
  · have hxb : x ≤ b := by simpa [hxa] using h
    exact ⟨fun hx => hxa (Binary64.le_trans hx ha.1), Binary64.le_trans hxb hb.2⟩

/-- Hours and days are as long from everywhere. -/
private theorem spanSeconds_fixed (length : Binary64) (t u : Instant) :
    spanSeconds length .hour t = spanSeconds length .hour u ∧
      spanSeconds length .day t = spanSeconds length .day u :=
  ⟨rfl, rfl⟩

/-- Windows of one width have the same labels, unless the width is one of those for
which they depend on the start. -/
theorem dependsOnStart_of_ofWindow_ne {w v : Window} (hwidth : w.widthMillis = v.widthMillis)
    (h : ofWindow w ≠ ofWindow v) : DependsOnStart v := by
  have hseconds : w.seconds = v.seconds := by
    show Binary64.ofInt w.widthMillis / 1000 = Binary64.ofInt v.widthMillis / 1000
    rw [hwidth]
  obtain ⟨breakpoint, hmem, hne⟩ := exists_serves_ne_of_ofWindow_ne h
  unfold serves at hne
  rw [hseconds] at hne
  simp only [breakpoints, List.mem_cons, List.not_mem_nil, or_false] at hmem
  -- On different sides of a fixed breakpoint there can be no windows of one width.
  rcases hmem with rfl | rfl | rfl | rfl
  · rw [(spanSeconds_fixed 8 w.start v.start).1] at hne
    exact absurd rfl hne
  · rw [(spanSeconds_fixed 5.99 w.start v.start).2] at hne
    exact absurd rfl hne
  · exact .inl (between_of_decide_ne (spanSeconds_month_bounds _)
      (spanSeconds_month_bounds _) hne)
  · exact .inr (between_of_decide_ne (spanSeconds_year_bounds _)
      (spanSeconds_year_bounds _) hne)

end SeriesPlot.TickLabels
