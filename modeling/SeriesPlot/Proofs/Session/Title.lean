import SeriesPlot.Proofs.Session.Preamble

/-!
# `SeriesPlot.Proofs.Session.Title`: the title on display is the current one

The title directive depends on the mode of the title and, for a derived title, on the
selection. Those are the two things that `Config.titleChanged` compares, so a state
that counts as unchanged has the same directive (`titleDirective?_eq_of_not_changed`).
By the invariant of `Proofs/Session/Preamble.lean`, the title that was set last is
then the title of the state that is plotted (`title_on_display`).

What that title says is `Config.IsTitleDirective`, in each of the three modes: nothing, a given
text, or the labels of the sources that the selection mentions. There is one such directive for a
state at most, and it is the one that is sent (`isTitleDirective_iff`).
-/

set_option autoImplicit false

namespace SeriesPlot

namespace Config

/-- States that count as having the same title have the same title directive. -/
theorem titleDirective?_eq_of_not_changed {c d : Config} (h : c.titleChanged d = false)
    (set : SourceSet) : c.titleDirective? set = d.titleDirective? set := by
  -- The selection is compared only if the title is derived, and only then it matters.
  simp only [titleChanged, Bool.or_eq_false_iff, bne_eq_false_iff_eq] at h
  obtain ⟨hmode, hselection⟩ := h
  unfold titleDirective?
  rw [hmode]
  cases htitle : d.title with
  | off => rfl
  | literal text => rfl
  | auto =>
    rw [htitle] at hselection
    have hselection : c.selection = d.selection := by simpa using hselection
    rw [hselection]

/-- What the title directive says in each mode. -/
def IsTitleDirective (c : Config) (set : SourceSet) (directive : String) : Prop :=
  match c.title with
  | .off => directive = "set title"
  | .auto => ∃ title, c.selection.title? set = some title ∧
      directive = "set title \"" ++ title ++ "\""
  | .literal text => directive = "set title " ++ text

/-- There is one title directive for a state at most, and it is the one that is sent. -/
theorem isTitleDirective_iff {c : Config} {set : SourceSet} {directive : String} :
    c.IsTitleDirective set directive ↔ c.titleDirective? set = some directive := by
  unfold IsTitleDirective titleDirective?
  cases c.title with
  | off => simp [eq_comm]
  | auto => rw [Option.map_eq_some_iff]; simp only [eq_comm]
  | literal text => simp [eq_comm]

end Config

namespace Session

/-- Whenever a run without a fault sends a plot, the plotter shows the title of the
plotted state. That is, the title directive sent last, with this plot or before it, is
the one that the state gives when it is drawn from scratch. So no change of the title
or the selection is lost, also none made while there was nothing to plot. -/
theorem title_on_display {set : SourceSet} {settings : Settings} {window : Window}
    {config : Config} (hbuild : settings.build window = .ok config)
    {fate : Nat → Delivery} {inputs : List String} {before after : List Outcome} {o : Outcome}
    (hrun : run { sources := set, config } fate inputs = before ++ o :: after)
    (hsucceeded : ∀ r ∈ before ++ [o], r.succeeded = true)
    {p : Plot} (hp : .plot p ∈ o.sent) :
    o.sent.getLast? = some (.plot p) ∧
      ∃ directive scratch, Plot.fromScratch? o.session.config set = some scratch ∧
        scratch.title = some directive ∧
        o.session.config.IsTitleDirective set directive ∧
        Preamble.title.last? ((before ++ [o]).flatMap (·.sent)) = some directive := by
  obtain ⟨hplot, -, hlast⟩ := drawn_of_plot_mem hrun hp
  refine ⟨hlast, ?_⟩
  -- A drawn state has a title, so there is something to show.
  obtain ⟨directive, hdirective⟩ := Preamble.exists_directive?_eq (k := .title) hplot
  refine ⟨directive, _, Plot.fromScratch?_eq hplot, hdirective,
    Config.isTitleDirective_iff.mpr hdirective, ?_⟩
  obtain ⟨r, hset, hchanged, hsources⟩ := Preamble.exists_lastSet_of_plot_mem
    (Preamble.due_of_build hbuild .title) hrun hsucceeded hp
  calc Preamble.title.last? ((before ++ [o]).flatMap (·.sent))
      = r.session.config.titleDirective? r.session.sources := hset.last?_eq
    _ = o.session.config.titleDirective? set := by
        rw [Config.titleDirective?_eq_of_not_changed hchanged, hsources]
    _ = some directive := hdirective

/-- The title is changed together with a selection that draws nothing. The plot after
that shows it, though the line that asks for the plot does not mention a title. -/
theorem title_on_display_after_no_series :
    ({} : Settings).build sample.config.window = .ok sample.config ∧
      ∃ before o p,
        sample.run (fun _ => .delivered) ["-title='fixed' q2", "a2"] = before ++ o :: [] ∧
        (∀ r ∈ before ++ [o], r.succeeded = true) ∧ .plot p ∈ o.sent ∧
        Preamble.title.last? ((before ++ [o]).flatMap (·.sent)) = some "set title 'fixed'" := by
  obtain ⟨before, o, p, hrun, hsucceeded, hp, htitle⟩ : ∃ before o p,
      sample.run (fun _ => .delivered) ["-title='fixed' q2", "a2"] = before ++ o :: [] ∧
      (∀ r ∈ before ++ [o], r.succeeded = true) ∧ .plot p ∈ o.sent ∧
      o.session.config.title = .literal "'fixed'" :=
    ⟨[_, _], _, {
      title := "set title 'fixed'"
      ticks := none
      draw := "plot ['2013-06-01 00:00':'2013-06-01 10:00'][:] " ++
        "'<sed -n \"s/^[0-9]/&/p\" a.csv' u 1:($2) t 'temp' w lines lw 1" },
      rfl, by decide, by decide +kernel, by decide⟩
  obtain ⟨-, directive, scratch, -, -, hdirective, hlast⟩ :=
    title_on_display build_sample hrun hsucceeded hp
  -- The directive on display is the one of the title that the last state has.
  unfold Config.IsTitleDirective at hdirective
  rw [htitle] at hdirective
  exact ⟨build_sample, before, o, p, hrun, hsucceeded, hp, by rw [hlast, hdirective]; rfl⟩

end Session

end SeriesPlot
