import SeriesPlot.Proofs.Calendar.Written
import SeriesPlot.Proofs.Directive.Plot
import SeriesPlot.Proofs.Session.WellFormed

/-!
# `SeriesPlot.Proofs.Session.AxisRange`: the time range of a plot, as it is written

A window is never empty, but a plot has its edges to the minute. What the two literals of
the plot denote is settled by `Instant.read_minuteText`, and `Plot.range_reads_in_order_iff`
says when the first is before the second.

* `Window.minute_lt_of_readsInOrder`: it never is for a window within one minute, as edges in one
  minute have the same text, in all years.
* `Window.readsInOrder_of_fourDigitYears`: in the years 0 to 9999 it is for all other windows.
  Outside of these years a text can be read as another instant than the one it was written for,
  and it is the instants read that count (`Window.readsInOrder_iff`).
* `Plot.range_reads_as_empty`: a window within one minute can be reached, and its plot has an
  empty range.
-/

set_option autoImplicit false

namespace SeriesPlot

namespace Window

variable {w : Window}

/-- The text of the first edge denotes an instant before the one that the text of the second
edge denotes. -/
def ReadsInOrder (w : Window) : Prop :=
  ∃ start stop, TimeLiteral.read w.start.minuteText = .ok start ∧
    TimeLiteral.read w.stop.minuteText = .ok stop ∧ start < stop

/-- The plotter reads a written edge as the instant that is read back, and as nothing else. -/
theorem read_eq_ok_iff {t r : Instant} :
    TimeLiteral.read t.minuteText = .ok r ↔ t.readBack? = some r := by
  rw [t.read_minuteText]
  cases t.readBack? with
  | none => simp
  | some _ => simp

/-- A written window reads in order iff both of its edges are read back and the first is the
earlier one. -/
theorem readsInOrder_iff :
    w.ReadsInOrder ↔
      ∃ start stop, w.start.readBack? = some start ∧ w.stop.readBack? = some stop ∧
        start < stop := by
  unfold ReadsInOrder
  simp only [read_eq_ok_iff]

/-- Edges in one minute have the same text, in all years. -/
theorem minute_lt_of_readsInOrder (h : w.ReadsInOrder) :
    w.start.millis / 60000 < w.stop.millis / 60000 := by
  obtain ⟨start, stop, hstart, hstop, horder⟩ := h
  have hle := Int.ediv_le_ediv (show 0 < 60000 by decide) (Int.le_of_lt w.start_lt_stop)
  refine Int.lt_iff_le_and_ne.mpr ⟨hle, fun hminute => ?_⟩
  rw [Instant.minuteText_eq_of_minute_eq hminute, hstop] at hstart
  cases hstart
  exact Int.lt_irrefl _ horder

/-- In the years 0 to 9999, edges in different minutes are read back in order. -/
theorem readsInOrder_of_fourDigitYears (hstart : 0 ≤ w.start.date.year)
    (hstop : w.stop.date.year ≤ 9999)
    (hminute : w.start.millis / 60000 < w.stop.millis / 60000) : w.ReadsInOrder := by
  have hyears := Instant.year_le_of_lt w.start_lt_stop
  obtain ⟨start, hreadStart, hmillisStart⟩ :=
    Instant.readBack?_of_fourDigitYear ⟨hstart, Int.le_trans hyears hstop⟩
  obtain ⟨stop, hreadStop, hmillisStop⟩ :=
    Instant.readBack?_of_fourDigitYear ⟨Int.le_trans hstart hyears, hstop⟩
  refine readsInOrder_iff.mpr ⟨start, stop, hreadStart, hreadStop, ?_⟩
  rw [Instant.lt_def, hmillisStart, hmillisStop]
  omega

end Window

namespace Plot

/-- A plot begins with the edges of the window to the minute. When they are read again, they
are in order iff the instants `readBack?` are. For that the edges have to lie in different
minutes, and in the years 0 to 9999 nothing else is needed. -/
theorem range_reads_in_order_iff {c : Config} {set : SourceSet} {p : Plot}
    (hplot : ofConfig? c set = some p) :
    (∃ rest, p.draw = "plot ['" ++ c.window.start.minuteText ++ "':'" ++
        c.window.stop.minuteText ++ "'][" ++ rest) ∧
      (c.window.ReadsInOrder ↔
        ∃ start stop, c.window.start.readBack? = some start ∧
          c.window.stop.readBack? = some stop ∧ start < stop) ∧
      (c.window.ReadsInOrder →
        c.window.start.millis / 60000 < c.window.stop.millis / 60000) ∧
      (0 ≤ c.window.start.date.year → c.window.stop.date.year ≤ 9999 →
        c.window.start.millis / 60000 < c.window.stop.millis / 60000 →
        c.window.ReadsInOrder) := by
  refine ⟨?_, Window.readsInOrder_iff, Window.minute_lt_of_readsInOrder,
    Window.readsInOrder_of_fourDigitYears⟩
  rw [ofConfig?_eq] at hplot
  split at hplot
  · cases hplot
  · cases hplot
    simp only [Config.drawDirective, String.append_assoc]
    exact ⟨_, rfl⟩

/-- The state of the sample session with another window. -/
def sampleWithin (window : Window) : Config :=
  { Session.sample.config with window, titleDue := false }

/-- One second is enough if a minute begins at its end. -/
theorem range_reads_in_order_over_minute :
    let c := ["s2013-06-01T00:00:59 e2013-06-01T00:01:00"].foldl
      (Config.afterLine Session.sample.sources) Session.sample.config
    (∃ p, ofConfig? c Session.sample.sources = some p) ∧
      c.window.stop.millis - c.window.start.millis = 1000 ∧ c.window.ReadsInOrder := by
  intro c
  have hc : c = sampleWithin ⟨⟨1370044859000, by decide, by decide⟩,
      ⟨1370044860000, by decide, by decide⟩, by decide⟩ := by decide +kernel
  have hplot := (ofConfig?_eq c Session.sample.sources).trans (if_neg (by rw [hc]; decide))
  obtain ⟨-, -, -, hinOrder⟩ := range_reads_in_order_iff hplot
  rw [hc] at hinOrder
  refine ⟨⟨_, hplot⟩, by rw [hc]; rfl, ?_⟩
  rw [hc]
  exact hinOrder (by decide) (by decide) (by decide)

/-- Ten seconds within a minute are plotted as an empty range. -/
theorem range_reads_as_empty :
    let c := ["s2013-06-01T00:00:10 e2013-06-01T00:00:20"].foldl
      (Config.afterLine Session.sample.sources) Session.sample.config
    ({} : Settings).build Session.sample.config.window = .ok Session.sample.config ∧
      c.window.stop.millis - c.window.start.millis = 10000 ∧
      (∃ p, ofConfig? c Session.sample.sources = some p ∧
        p.draw = "plot ['2013-06-01 00:00':'2013-06-01 00:00'][:] " ++
          "'<sed -n \"s/^[0-9]/&/p\" a.csv' u 1:($2) t 'temp' w lines lw 1") ∧
      ¬ c.window.ReadsInOrder := by
  intro c
  have hc : c = sampleWithin ⟨⟨1370044810000, by decide, by decide⟩,
      ⟨1370044820000, by decide, by decide⟩, by decide⟩ := by decide +kernel
  rw [hc]
  refine ⟨Session.build_sample, rfl,
    ⟨_, (ofConfig?_eq _ Session.sample.sources).trans (if_neg (by decide)),
      by decide +kernel⟩, fun h => ?_⟩
  exact absurd (Window.minute_lt_of_readsInOrder h) (by decide)

end Plot

end SeriesPlot
