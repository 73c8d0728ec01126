import SeriesPlot.Directive
import SeriesPlot.Proofs.Config.WellFormed
import SeriesPlot.Proofs.Directive.Occurrences

/-!
# `SeriesPlot.Proofs.Directive.OneLine`: directives are single lines

The plotter takes every line for a directive of its own, so a directive must not have a line
feed in it. What comes from outside is the labels and the names of the sources and the texts
of the state: if these are `OneLine`, so is every directive that draws the state
(`Plot.oneLine_line`).

* `SourceSet.oneLine_of_ofSources`: a set takes over the labels and the names of its sources.
* `Config.oneLine_titleDirective?`, `Config.oneLine_ticksDirective`,
  `Config.oneLine_drawDirective`: one lemma for each of the three directives of a plot.

The first and the last of these are counts of line feeds that come to nothing. A text that is
given for the title or for the time labels is put into its directive as it is.
-/

set_option autoImplicit false

namespace SeriesPlot

open SeriesPlot.Text

namespace Text

/-- A text without a line feed. -/
def OneLine (text : String) : Prop := '\n' ∉ text.toList

instance (text : String) : Decidable (OneLine text) := inferInstanceAs (Decidable (_ ∉ _))

/-- Two texts have no line feed together iff neither has one. -/
@[simp] theorem oneLine_append {first second : String} :
    OneLine (first ++ second) ↔ OneLine first ∧ OneLine second := by
  simp [OneLine]

/-- Joined texts have none if neither they nor the separator have one. -/
theorem oneLine_join {separator : String} (hseparator : OneLine separator)
    {texts : List String} (h : ∀ text ∈ texts, OneLine text) :
    OneLine (join separator texts) := by
  induction texts with
  | nil =>
    show OneLine ""
    decide
  | cons text rest ih =>
    rw [List.forall_mem_cons] at h
    -- The last text has no separator after it.
    cases rest with
    | nil => exact h.1
    | cons next rest =>
      show OneLine (text ++ separator ++ join separator (next :: rest))
      simp only [oneLine_append]
      exact ⟨⟨h.1, hseparator⟩, ih h.2⟩

end Text

/-! ### What the texts come from -/

/-- The label and the names have no line feed. -/
structure Source.OneLine (s : Source) : Prop where
  label : Text.OneLine s.label
  names : ∀ name ∈ s.names, Text.OneLine name

/-- The sources of a set have their letters and no line feeds. -/
structure SourceSet.OneLine (set : SourceSet) : Prop where
  source : ∀ source ∈ set.sources, source.OneLine
  letter : ∀ source ∈ set.sources, source.letter ∈ sourceLetters

/-- A text that is given has no line feed. -/
def TextMode.OneLine (mode : TextMode) : Prop := ∀ text, mode = .literal text → Text.OneLine text

/-- No text of the defaults has a line feed. -/
structure Defaults.OneLine (d : Defaults) : Prop where
  style : Text.OneLine d.style.text
  missing : ∀ test, d.missing = some test → Text.OneLine test.text

/-- No text of the state has a line feed. -/
structure Config.OneLine (c : Config) : Prop where
  inUse : c.inUse.OneLine
  defaults : c.defaults.OneLine
  title : c.title.OneLine
  ticks : c.ticks.OneLine

/-- A set takes over the labels and names of its sources. -/
theorem SourceSet.oneLine_of_ofSources {given : List Source} {set : SourceSet}
    (hset : ofSources given = .ok set) (h : ∀ source ∈ given, source.OneLine) : set.OneLine where
  source source hsource := by
    obtain ⟨-, g, hg, heq⟩ := exists_given_of_mem_sources hset hsource
    rw [heq]
    exact { h g hg with }
  letter _ hsource := (exists_given_of_mem_sources hset hsource).1

/-! ### Directives -/

/-- Nothing that a series takes from its file has a line feed. -/
theorem Source.OneLine.ownOccurrences_eq_zero {drawn : Series} (h : drawn.source.OneLine) :
    drawn.ownOccurrences '\n' = 0 := by
  refine Series.ownOccurrences_eq_zero_iff.mpr ⟨h.label, fun name hname => ?_⟩
  unfold Source.columnName? at hname
  split at hname
  · cases hname
  · exact h.names name (List.mem_of_getElem? hname)

namespace Config

variable {c : Config} {set : SourceSet}

/-- The title is a given text or made of labels. -/
theorem oneLine_titleDirective? (hc : c.OneLine) (hset : set.OneLine) {text : String}
    (h : c.titleDirective? set = some text) : Text.OneLine text := by
  cases htitle : c.title with
  | off =>
    unfold titleDirective? at h
    rw [htitle] at h
    cases h
    decide
  | literal given =>
    unfold titleDirective? at h
    rw [htitle] at h
    cases h
    exact oneLine_append.mpr ⟨by decide, hc.title given htitle⟩
  -- A derived title has as many line feeds as the labels it is made of.
  | auto =>
    have hlabels : ((c.selection.activeSources set).map fun s => occurrences '\n' s.label).sum =
        0 := by
      rw [List.sum_eq_zero_iff_forall_eq_nat, List.forall_mem_map]
      intro s hs
      exact occurrences_eq_zero_iff.mpr (hset.source s (List.mem_filter.mp hs).1).label
    refine occurrences_eq_zero_iff.mp ?_
    rw [occurrences_titleDirective? (by decide) hset.letter htitle h, hlabels]
    decide

/-- The directive for the time labels is one of a few lines or has a given text. -/
theorem oneLine_ticksDirective (hc : c.OneLine) : Text.OneLine c.ticksDirective := by
  unfold ticksDirective
  split
  · decide
  · have hlabels : ∀ labels : TickLabels, Text.OneLine labels.text := by
      intro labels
      cases labels <;> decide
    exact oneLine_append.mpr ⟨by decide, hlabels _⟩
  · rename_i given hgiven
    exact oneLine_append.mpr ⟨by decide, hc.ticks given hgiven⟩

/-- The directive that draws has a clause for each series. -/
theorem oneLine_drawDirective (hc : c.OneLine) (hset : set.OneLine) :
    Text.OneLine (c.drawDirective set (c.selection.series set)) := by
  have hframes : occurrences '\n' drawFrame = 0 ∧ occurrences '\n' Series.frame = 0 := by decide
  have hstyle : occurrences '\n' c.style.text = 0 := occurrences_eq_zero_iff.mpr hc.inUse.style
  have hmissing : MissingTest.occurrences '\n' c.missing = 0 :=
    MissingTest.occurrences_eq_zero_iff.mpr hc.inUse.missing
  have hown : ((c.selection.series set).map (Series.ownOccurrences '\n')).sum = 0 := by
    rw [List.sum_eq_zero_iff_forall_eq_nat, List.forall_mem_map]
    intro drawn hdrawn
    have hactive := Selection.mem_activeSources_of_mem_series hdrawn
    exact (hset.source _ (List.mem_filter.mp hactive).1).ownOccurrences_eq_zero
  -- The line feeds are counted part by part, and every part has none.
  refine occurrences_eq_zero_iff.mp ?_
  rw [occurrences_drawDirective (by decide) hset.letter, hframes.1, hframes.2, hstyle, hmissing,
    hown]
  simp

end Config

/-- The plot of a state is a single line if the texts it is made of are. -/
theorem Plot.oneLine_line {c : Config} {set : SourceSet} {p : Plot} (hc : c.OneLine)
    (hset : set.OneLine) (h : ofConfig? c set = some p) : Text.OneLine p.line := by
  rw [ofConfig?_eq] at h
  split at h
  · cases h
  · cases h
    refine oneLine_join (by decide) fun text htext => ?_
    simp only [preamble, List.mem_append, Option.mem_toList, List.mem_singleton,
      Option.ite_none_right_eq_some, Option.some.injEq] at htext
    rcases htext with (⟨-, htitle⟩ | ⟨-, rfl⟩) | rfl
    · exact Config.oneLine_titleDirective? hc hset htitle
    · exact Config.oneLine_ticksDirective hc
    · exact Config.oneLine_drawDirective hc hset

end SeriesPlot
