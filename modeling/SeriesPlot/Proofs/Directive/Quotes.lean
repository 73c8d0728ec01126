import SeriesPlot.Proofs.Directive.Occurrences
import SeriesPlot.Proofs.Directive.Title

/-!
# `SeriesPlot.Proofs.Directive.Quotes`: the quotes in a directive

A directive puts the range, the name of a file and the legend of a series between single
quotes, and a derived title between double quotes. These are four quotes and four more for
each series, and two. The labels and the names of columns stand between them as they are, so
a directive has just these quotes iff no label and no name has one of its own
(`Plot.quotes_of_plot`). If one does, it ends there for the plotter
(`Plot.quotes_of_quoted_names`).

The counts are those of `Proofs/Directive/Occurrences.lean` for the two kinds of quotes. A sum of
natural numbers is zero iff all of them are, which turns the count into a condition on every
series that is drawn and on every source that the title names.
-/

set_option autoImplicit false

namespace SeriesPlot

open SeriesPlot.Text

/-- A plot has four single quotes and four more for each series, and a derived title has two
double quotes, apart from those in the labels and in the names of columns, if the style and
the test for missing values have none. So the numbers are right iff no label and no name that
is shown has a quote of the kind that is around it. -/
theorem Plot.quotes_of_plot {given : List Source} {set : SourceSet}
    (hset : SourceSet.ofSources given = .ok set) {c : Config}
    (hstyle : '\'' ∉ c.style.text.toList)
    (hmissing : ∀ test, c.missing = some test → '\'' ∉ test.text.toList) {p : Plot}
    (hplot : ofConfig? c set = some p) :
    let series := c.selection.series set
    let active := c.selection.activeSources set
    occurrences '\'' p.draw =
        4 + 4 * series.length + (series.map (Series.ownOccurrences '\'')).sum ∧
      (occurrences '\'' p.draw = 4 + 4 * series.length ↔
        ∀ drawn ∈ series, '\'' ∉ drawn.source.label.toList ∧
          ∀ name, drawn.source.columnName? drawn.column = some name → '\'' ∉ name.toList) ∧
      (c.title = .auto → ∀ title, p.title = some title →
        occurrences '"' title = 2 + (active.map fun s => occurrences '"' s.label).sum ∧
          (occurrences '"' title = 2 ↔ ∀ source ∈ active, '"' ∉ source.label.toList)) := by
  intro series active
  have hletters : ∀ source ∈ set.sources, source.letter ∈ sourceLetters :=
    fun source hsource => (SourceSet.exists_given_of_mem_sources hset hsource).1
  have hsingle : occurrences '\'' Config.drawFrame = 4 ∧ occurrences '\'' Series.frame = 4 := by
    decide
  have hdouble : occurrences '"' "set title \"" = 1 ∧ occurrences '"' "\"" = 1 := by decide
  -- The frames have a fixed number of quotes, and style and test have none, so only labels and
  -- names are left to count.
  have hcount : occurrences '\'' p.draw =
      4 + 4 * series.length + (series.map (Series.ownOccurrences '\'')).sum := by
    have hdraw : p.draw = c.drawDirective set series := by
      rw [ofConfig?_eq] at hplot
      split at hplot <;> cases hplot
      rfl
    rw [hdraw, Config.occurrences_drawDirective (by decide) hletters, hsingle.1, hsingle.2,
      occurrences_eq_zero_iff.mpr hstyle, MissingTest.occurrences_eq_zero_iff.mpr hmissing]
  refine ⟨hcount, ?_, fun hauto title htitle => ?_⟩
  · rw [hcount, Nat.add_eq_left, List.sum_eq_zero_iff_forall_eq_nat, List.forall_mem_map]
    simp only [Series.ownOccurrences_eq_zero_iff]
  · have hdirective : c.titleDirective? set = some title := by
      rw [ofConfig?_eq] at hplot
      split at hplot <;> cases hplot
      exact (Option.ite_none_right_eq_some.mp htitle).2
    have hquotes : occurrences '"' title =
        2 + (active.map fun s => occurrences '"' s.label).sum := by
      rw [Config.occurrences_titleDirective? (by decide) hletters hauto hdirective, hdouble.1,
        hdouble.2]
    refine ⟨hquotes, ?_⟩
    rw [hquotes, Nat.add_eq_left, List.sum_eq_zero_iff_forall_eq_nat, List.forall_mem_map]
    simp only [occurrences_eq_zero_iff]

/-- Two series of two files. -/
theorem Plot.quotes_of_plot_of_two_files :
    let c := pairOfFiles.config [⟨some 'a', some 2⟩, ⟨some 'b', some 2⟩]
    SourceSet.ofSources pairOfFiles.sources = .ok pairOfFiles ∧
      '\'' ∉ c.style.text.toList ∧ c.missing = none ∧
      ∃ p title, ofConfig? c pairOfFiles = some p ∧ p.title = some title ∧
        occurrences '\'' p.draw = 12 ∧ occurrences '"' title = 2 := by
  intro c
  have hstyle : '\'' ∉ c.style.text.toList := by decide
  have hmissing : ∀ test, c.missing = some test → '\'' ∉ test.text.toList := by rintro _ ⟨⟩
  have hplot := (ofConfig?_eq c pairOfFiles).trans (if_neg (by decide))
  obtain ⟨hcount, -, htitle⟩ := quotes_of_plot ofSources_pairOfFiles hstyle hmissing hplot
  obtain ⟨htwo, -⟩ := htitle rfl "set title \"a.csv (A), b.csv (B)\"" (by decide)
  exact ⟨ofSources_pairOfFiles, hstyle, rfl, _, _, hplot, by decide,
    hcount.trans (by decide), htwo.trans (by decide)⟩

/-- A file with an apostrophe in the name of its column. -/
def quotedFile : List UInt8 :=
  ("fields,wind's\n2013-06-01 00:00:00,1\n2013-06-01 10:00:00,2\n".toList).map Char.toUInt8

/-- The source of that file if its label has a double quote. -/
def quotedSet : SourceSet :=
  let source : Source := {
    letter := 'a', names := ["wind's"], label := "a\"b.csv"
    start := pairOfFiles.union.start
    stop := pairOfFiles.initialWindow.stop }
  { sources := [source]
    union := ⟨source.start, source.stop, by decide⟩
    overlap := some ⟨source.start, source.stop, by decide⟩ }

/-- With an apostrophe in a name and a double quote in a label there are nine single quotes
and three double quotes. -/
theorem Plot.quotes_of_quoted_names :
    let c := { pairOfFiles.config [⟨some 'a', some 2⟩] with window := quotedSet.initialWindow }
    SourceSet.load (fun _ => .ok quotedFile) ["a\"b.csv"] = .ok quotedSet ∧
      ({} : Settings).build quotedSet.initialWindow = .ok c ∧
      '\'' ∉ c.style.text.toList ∧ c.missing = none ∧
      (c.selection.series quotedSet).length = 1 ∧
      ∃ p, ofConfig? c quotedSet = some p ∧
        p.title = some "set title \"a\"b.csv\"" ∧
        p.draw = "plot ['2013-06-01 00:00':'2013-06-01 10:00'][:] " ++
          "'<sed -n \"s/^[0-9]/&/p\" a\"b.csv' u 1:($2) t 'wind's' w lines lw 1" ∧
        occurrences '\'' p.draw = 9 ∧ p.title.map (occurrences '"') = some 3 := by
  intro c
  refine ⟨rfl, ?_, by decide, rfl, by decide, _,
    (ofConfig?_eq c quotedSet).trans (if_neg (by decide)), by decide, by decide +kernel,
    by decide +kernel, by decide⟩
  unfold Settings.build
  dsimp only
  rw [if_pos (by decide +kernel)]
  rfl

end SeriesPlot
