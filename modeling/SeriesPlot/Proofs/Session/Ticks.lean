import SeriesPlot.Proofs.Directive.Ticks
import SeriesPlot.Proofs.Session.Preamble

/-!
# `SeriesPlot.Proofs.Session.Ticks`: when the time labels on display are the current ones

The labels are set again when their mode or the width of the window changes. Derived
labels also depend on where the window starts, and a move to another start is not
noticed. So the labels on display are those that a window of the same width had when
they were set (`ticks_on_display_iff`). These are mostly the labels of the current
window: for almost all widths the start makes no difference
(`Proofs/Directive/Ticks.lean`). A move by days over a month of another length shows the
difference (`ticks_not_on_display`).

* `Config.of_ticksChanged_eq_false`: states that count as having the same labels agree in their
  mode and, for derived labels, in the width of their windows, and in nothing else.
* `TickLabels.text_inj`: different labels have different formats, so comparing directives is
  comparing labels.
-/

set_option autoImplicit false

namespace SeriesPlot

namespace TickLabels

/-- Different labels have different formats. -/
theorem text_inj {a b : TickLabels} : a.text = b.text ↔ a = b := by
  cases a <;> cases b <;> decide

end TickLabels

namespace Config

/-- States that count as having the same labels agree in their mode and, for derived
labels, in the width of their windows. -/
theorem of_ticksChanged_eq_false {c d : Config} (h : c.ticksChanged d = false) :
    c.ticks = d.ticks ∧
      (d.ticks = .auto → c.window.widthMillis = d.window.widthMillis) := by
  -- The width is compared only if the labels are derived after the change.
  simp only [ticksChanged, Bool.or_eq_false_iff, bne_eq_false_iff_eq] at h
  refine ⟨h.1, fun hauto => ?_⟩
  simpa [hauto] using h.2

/-- States of one mode have the same directive for the labels iff derived labels come
out the same. -/
theorem ticksDirective_eq_iff {c d : Config} (h : c.ticks = d.ticks) :
    c.ticksDirective = d.ticksDirective ↔
      (d.ticks = .auto → TickLabels.ofWindow c.window = TickLabels.ofWindow d.window) := by
  unfold ticksDirective
  rw [h]
  cases hticks : d.ticks with
  | off => simp
  | literal text => simp
  | auto => simp [TickLabels.text_inj]

end Config

namespace Session

/-- In a run without a fault, the labels on display when a plot is sent are those of
the state `r` in which they were set last. The current state has the same mode and, if
the labels are derived, a window of the same width. So the labels on display are the
current ones iff derived labels come out the same for the two windows. Otherwise the
width is one of those for which the labels depend on the start. -/
theorem ticks_on_display_iff {set : SourceSet} {settings : Settings} {window : Window}
    {config : Config} (hbuild : settings.build window = .ok config)
    {fate : Nat → Delivery} {inputs : List String} {before after : List Outcome} {o : Outcome}
    (hrun : run { sources := set, config } fate inputs = before ++ o :: after)
    (hsucceeded : ∀ r ∈ before ++ [o], r.succeeded = true)
    {p : Plot} (hp : .plot p ∈ o.sent) :
    o.sent.getLast? = some (.plot p) ∧
      ∃ r scratch, Preamble.ticks.LastSet (before ++ [o]) r ∧
        Plot.fromScratch? o.session.config set = some scratch ∧
        scratch.ticks = some o.session.config.ticksDirective ∧
        r.session.config.ticks = o.session.config.ticks ∧
        (o.session.config.ticks = .auto →
          r.session.config.window.widthMillis = o.session.config.window.widthMillis) ∧
        (Preamble.ticks.last? ((before ++ [o]).flatMap (·.sent)) = scratch.ticks ↔
          (o.session.config.ticks = .auto →
            TickLabels.ofWindow r.session.config.window =
              TickLabels.ofWindow o.session.config.window)) ∧
        (Preamble.ticks.last? ((before ++ [o]).flatMap (·.sent)) ≠ scratch.ticks →
          o.session.config.ticks = .auto ∧
            TickLabels.DependsOnStart o.session.config.window) := by
  obtain ⟨hplot, -, hlast⟩ := drawn_of_plot_mem hrun hp
  refine ⟨hlast, ?_⟩
  obtain ⟨r, hset, hchanged, -⟩ := Preamble.exists_lastSet_of_plot_mem
    (Preamble.due_of_build hbuild .ticks) hrun hsucceeded hp
  obtain ⟨hmode, hwidth⟩ := Config.of_ticksChanged_eq_false hchanged
  -- What is on display is the directive of `r`, so the states are to be compared.
  have hiff : Preamble.ticks.last? ((before ++ [o]).flatMap (·.sent)) =
      some o.session.config.ticksDirective ↔
        (o.session.config.ticks = .auto →
          TickLabels.ofWindow r.session.config.window =
            TickLabels.ofWindow o.session.config.window) := by
    rw [hset.last?_eq, Preamble.directive?, Option.some_inj]
    exact Config.ticksDirective_eq_iff hmode
  refine ⟨r, _, hset, Plot.fromScratch?_eq hplot, rfl, hmode, hwidth, hiff, fun hstale => ?_⟩
  obtain ⟨hauto, hlabels⟩ := Classical.not_imp.mp (mt hiff.mpr hstale)
  exact ⟨hauto, TickLabels.dependsOnStart_of_ofWindow_ne (hwidth hauto) hlabels⟩

/-- A window of 130 days that starts in March 2013 is moved by 28 days to February. -/
private theorem exists_shift_run :
    ∃ before o p,
      sample.run (fun _ => .delivered) ["s2013-03-01 e2013-07-09", "<28d"] = before ++ o :: [] ∧
      (∀ r ∈ before ++ [o], r.succeeded = true) ∧ .plot p ∈ o.sent ∧
      o.session.config.ticks = .auto ∧
      o.session.config.ticksDirective = "set format x \"%b\\n%Y\"" ∧
      Preamble.ticks.last? ((before ++ [o]).flatMap (·.sent)) =
        some "set format x \"%d %b\\n%Y\"" :=
  ⟨[_, _], _, {
      title := none
      ticks := none
      draw := "plot ['2013-02-01 00:00':'2013-06-11 00:00'][:] " ++
        "'<sed -n \"s/^[0-9]/&/p\" a.csv' u 1:($2) t 'temp' w lines lw 1" },
    rfl, by decide +kernel, by decide +kernel, by decide +kernel, by decide +kernel,
    by decide +kernel⟩

/-- A move by days over a month of another length. The window keeps its width of 130
days, which is no more than 4.516 times the 31 days of March but more than that of the
28 days of February. Its labels change from days to months, and the move does not
set them. -/
theorem ticks_not_on_display :
    ({} : Settings).build sample.config.window = .ok sample.config ∧
      ∃ before o p scratch,
        sample.run (fun _ => .delivered) ["s2013-03-01 e2013-07-09", "<28d"] =
          before ++ o :: [] ∧
        (∀ r ∈ before ++ [o], r.succeeded = true) ∧ .plot p ∈ o.sent ∧
        Plot.fromScratch? o.session.config sample.sources = some scratch ∧
        scratch.ticks = some "set format x \"%b\\n%Y\"" ∧
        Preamble.ticks.last? ((before ++ [o]).flatMap (·.sent)) =
          some "set format x \"%d %b\\n%Y\"" := by
  obtain ⟨before, o, p, hrun, hsucceeded, hp, -, hticks, hlast⟩ := exists_shift_run
  obtain ⟨hplot, -, -⟩ := drawn_of_plot_mem hrun hp
  exact ⟨build_sample, before, o, p, _, hrun, hsucceeded, hp, Plot.fromScratch?_eq hplot,
    congrArg some hticks, hlast⟩

/-- The labels of that move were last set for a window of the same width, for which they
come out differently. -/
theorem ticks_on_display_iff_after_shift :
    ({} : Settings).build sample.config.window = .ok sample.config ∧
      ∃ before o p r,
        sample.run (fun _ => .delivered) ["s2013-03-01 e2013-07-09", "<28d"] =
          before ++ o :: [] ∧
        (∀ r ∈ before ++ [o], r.succeeded = true) ∧ .plot p ∈ o.sent ∧
        Preamble.ticks.LastSet (before ++ [o]) r ∧
        r.session.config.window.widthMillis = o.session.config.window.widthMillis ∧
        TickLabels.ofWindow r.session.config.window ≠
          TickLabels.ofWindow o.session.config.window := by
  obtain ⟨before, o, p, hrun, hsucceeded, hp, hauto, hdirective, hlast⟩ := exists_shift_run
  obtain ⟨-, r, scratch, hset, -, hscratch, -, hwidth, hiff, -⟩ :=
    ticks_on_display_iff build_sample hrun hsucceeded hp
  refine ⟨build_sample, before, o, p, r, hrun, hsucceeded, hp, hset, hwidth hauto, ?_⟩
  intro hlabels
  have hsame := hiff.mpr fun _ => hlabels
  rw [hlast, hscratch, hdirective] at hsame
  exact absurd hsame (by decide)

end Session

end SeriesPlot
