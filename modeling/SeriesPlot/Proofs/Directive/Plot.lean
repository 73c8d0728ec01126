import SeriesPlot.Directive.Plot
import SeriesPlot.Proofs.Source.Set
import SeriesPlot.Proofs.Support.EraseDups

/-!
# `SeriesPlot.Proofs.Directive.Plot`: when there is a plot, and what it says

`Plot.ofConfig?_eq` separates the two questions. There is a plot iff the selection
draws some series, whatever is due. What is due only decides which of the two
directives come before the plot. A derived title cannot be missing then: the
source of a series is one that the title names (`mem_activeSources_of_mem_series`).

* `Plot.fromScratch?` is the plot of a state when everything is due. What a session
  leaves out because it has not changed is measured against it (`Plot.fromScratch?_eq`).
* `Plot.ofConfig?_due`: with other things due the plot is the same but for the directives before
  it.
* `Plot.ofConfig?_congr`: a plot depends on the selection and the sources only by the series that
  are drawn and by which sources are active. To show that two states have the same plot it is
  enough to compare these two lists.
-/

set_option autoImplicit false

namespace SeriesPlot

open SeriesPlot.Proofs.Support

namespace Selection

variable {s : Selection} {set : SourceSet}

/-- If the items denote series that can all be drawn and none of them twice, these are what
the selection draws. -/
theorem series_eq_of_flatMap_eq {all : List Series}
    (hitems : s.items.flatMap (·.series set) = all)
    (hcolumns : ∀ drawn ∈ all, drawn.source.mayHave drawn.column = true)
    (hdistinct : all.Pairwise fun a b => b.same a = false) : s.series set = all := by
  unfold series
  rw [hitems, List.filter_eq_self.mpr hcolumns, eraseDupsBy_eq_self hdistinct]

/-- The source of a series is one that the selection mentions. -/
theorem mem_activeSources_of_mem_series {drawn : Series} (h : drawn ∈ s.series set) :
    drawn.source ∈ s.activeSources set := by
  have hmem := (List.mem_filter.mp (mem_of_mem_eraseDupsBy h)).1
  obtain ⟨⟨letter?, column?⟩, hitem, hdrawn⟩ := List.mem_flatMap.mp hmem
  rw [activeSources, List.mem_filter]
  unfold Item.series at hdrawn
  cases letter? with
  -- Without a letter an item stands for a column of every source, and all of them are active.
  | none =>
    cases column? with
    | none => simp at hdrawn
    | some column =>
      obtain ⟨source, hsource, rfl⟩ := List.mem_map.mp hdrawn
      have hspans : s.spansAllSources = true :=
        List.any_eq_true.mpr ⟨_, hitem, rfl⟩
      exact ⟨hsource, by simp [hspans]⟩
  -- With a letter it stands for columns of that source, whose letter is listed.
  | some letter =>
    obtain ⟨source, hsource, heq⟩ :
        ∃ source, set.get? letter = some source ∧ drawn.source = source := by
      cases column? with
      | none => grind
      | some column => grind
    obtain ⟨hmem, hletter⟩ := SourceSet.mem_of_get?_eq_some hsource
    have hletters : letter ∈ s.letters := by
      rw [letters, List.mem_eraseDups, List.mem_filterMap]
      exact ⟨_, hitem, rfl⟩
    rw [heq]
    exact ⟨hmem, by simp [hletter, hletters]⟩

/-- There is a title for every selection that draws a series. -/
theorem isSome_title?_of_series_ne_nil (h : s.series set ≠ []) : (s.title? set).isSome := by
  -- The title fails only if no source is named, and a series names its own.
  obtain ⟨drawn, hdrawn⟩ := List.exists_mem_of_ne_nil _ h
  have hactive := mem_activeSources_of_mem_series hdrawn
  unfold title?
  split
  · simp_all
  · rfl
  · rfl

end Selection

/-- The title directive can be derived from every state that draws a series. -/
theorem Config.isSome_titleDirective? {c : Config} {set : SourceSet}
    (h : c.selection.series set ≠ []) : (c.titleDirective? set).isSome := by
  unfold titleDirective?
  cases c.title with
  | off => rfl
  | auto => simpa using Selection.isSome_title?_of_series_ne_nil h
  | literal text => rfl

/-- The title directive depends on the selection and the sources only by which sources are
active. -/
theorem Config.titleDirective?_congr {c : Config} {s : Selection} {set set' : SourceSet}
    (hactive : s.activeSources set' = c.selection.activeSources set) :
    { c with selection := s }.titleDirective? set' = c.titleDirective? set := by
  unfold titleDirective? Selection.title?
  rw [hactive]

/-- So does the directive that draws some series. -/
theorem Config.drawDirective_congr {c : Config} {s : Selection} {set set' : SourceSet}
    (hactive : s.activeSources set' = c.selection.activeSources set) (series : List Series) :
    { c with selection := s }.drawDirective set' series = c.drawDirective set series := by
  unfold drawDirective
  rw [hactive]
  rfl

namespace Plot

/-- There is a plot iff the selection draws some series. Which directives precede it
depends on what is due, and on nothing else. -/
theorem ofConfig?_eq (c : Config) (set : SourceSet) :
    ofConfig? c set =
      if c.selection.series set = [] then none
      else some {
        title := if c.titleDue then c.titleDirective? set else none
        ticks := if c.ticksDue then some c.ticksDirective else none
        draw := c.drawDirective set (c.selection.series set) } := by
  unfold ofConfig?
  cases hseries : c.selection.series set with
  | nil =>
    cases c.titleDue with
    | false => rfl
    | true => cases c.titleDirective? set <;> rfl
  | cons first rest =>
    -- A series has an active source, so there is a title whenever one is due.
    have hsome : (c.titleDirective? set).isSome :=
      c.isSome_titleDirective? (by simp [hseries])
    obtain ⟨title, htitle⟩ := Option.isSome_iff_exists.mp hsome
    rw [htitle]
    cases c.titleDue with
    | false => rfl
    | true => rfl

/-- A plot depends on the selection and the sources only by the series that are drawn and
by which sources are active. -/
theorem ofConfig?_congr {c : Config} {s : Selection} {set set' : SourceSet}
    (hseries : s.series set' = c.selection.series set)
    (hactive : s.activeSources set' = c.selection.activeSources set) :
    ofConfig? { c with selection := s } set' = ofConfig? c set := by
  rw [ofConfig?_eq, ofConfig?_eq, Config.titleDirective?_congr hactive,
    Config.drawDirective_congr hactive, hseries]
  rfl

/-- The plot of a state with other directives due is the same but for the directives before
it. -/
theorem ofConfig?_due (c : Config) (set : SourceSet) (title ticks : Bool) :
    ofConfig? { c with titleDue := title, ticksDue := ticks } set =
      (ofConfig? c set).map fun p => {
        title := if title then c.titleDirective? set else none
        ticks := if ticks then some c.ticksDirective else none
        draw := p.draw } := by
  rw [ofConfig?_eq, ofConfig?_eq]
  split <;> rfl

/-- The plot of a state with both directives due, as if nothing had been drawn before. -/
def fromScratch? (c : Config) (set : SourceSet) : Option Plot :=
  ofConfig? { c with titleDue := true, ticksDue := true } set

/-- A state that is drawn can be drawn from scratch. The plot is the same but for the
directives before it, which then are all there. -/
theorem fromScratch?_eq {c : Config} {set : SourceSet} {p : Plot}
    (h : ofConfig? c set = some p) :
    fromScratch? c set = some {
      title := c.titleDirective? set
      ticks := some c.ticksDirective
      draw := p.draw } := by
  rw [fromScratch?, ofConfig?_due, h]
  rfl

end Plot

end SeriesPlot
