import Mathlib.Data.List.Nodup
import SeriesPlot.Proofs.Directive.Title

/-!
# `SeriesPlot.Proofs.Directive.Legend`: legends of different sources

A legend starts with a name from a header, or with a letter and a number, and nothing keeps
two sources from having the same. It ends with the tag of its source if more than one source
is active.

* `Selection.one_lt_length_activeSources`: that is so whenever series of two sources are drawn,
  since the source of a series is active.
* `Series.letter_eq_of_legend_eq`: all tags have one length and end in the letter of the source, so
  no name can make the legends of two sources equal. The letters can be told apart in upper case
  too (`letter_eq_of_toUpper_eq`).
* `Plot.legends_of_sources_differ`: so in a plot of at least two sources every legend tells of
  which of them its series is.
-/

set_option autoImplicit false

namespace SeriesPlot

/-- The tag of a source is its letter in upper case in parentheses. -/
theorem Source.toList_tag (s : Source) : s.tag.toList = [' ', '(', s.letter.toUpper, ')'] := by
  simp [tag]

/-- The letters of sources can be told apart in upper case too. -/
theorem letter_eq_of_toUpper_eq {a b : Char} (ha : a ∈ sourceLetters) (hb : b ∈ sourceLetters)
    (h : a.toUpper = b.toUpper) : a = b := by
  have hnodup : (sourceLetters.map Char.toUpper).Nodup := by decide
  exact List.inj_on_of_nodup_map hnodup ha hb h

namespace Series

variable {a b : Series}

/-- With a tag a legend is the name of the column, or its letter and number, and then the tag. -/
theorem legend_tagged (s : Series) :
    s.legend true = (s.source.columnName? s.column).getD
      (s.source.letter.toString ++ toString s.column) ++ s.source.tag := rfl

/-- With their tags, equal legends are of sources with the same letter. -/
theorem letter_eq_of_legend_eq (ha : a.source.letter ∈ sourceLetters)
    (hb : b.source.letter ∈ sourceLetters) (h : a.legend true = b.legend true) :
    a.source.letter = b.source.letter := by
  have hlists := congrArg String.toList h
  rw [legend_tagged, legend_tagged, String.toList_append, String.toList_append,
    Source.toList_tag, Source.toList_tag] at hlists
  -- The tags are of one length, so they are equal whatever stands before them.
  have htags : [' ', '(', a.source.letter.toUpper, ')'] =
      [' ', '(', b.source.letter.toUpper, ')'] := (List.append_inj' hlists rfl).2
  exact letter_eq_of_toUpper_eq ha hb (by simpa using htags)

end Series

/-- If series of two sources are drawn, more than one source is active. -/
theorem Selection.one_lt_length_activeSources {s : Selection} {set : SourceSet} {a b : Series}
    (ha : a ∈ s.series set) (hb : b ∈ s.series set) (hne : a.source ≠ b.source) :
    1 < (s.activeSources set).length := by
  have hactive := mem_activeSources_of_mem_series ha
  have hother := mem_activeSources_of_mem_series hb
  cases hsources : s.activeSources set with
  | nil => simp [hsources] at hactive
  | cons first rest =>
    cases rest with
    | nil =>
      rw [hsources, List.mem_singleton] at hactive hother
      exact absurd (hactive.trans hother.symm) hne
    | cons second rest => simp

/-- If a plot has series of at least two sources, each legend is a name and, in parentheses,
the letter of its own source in upper case. So series of different sources have different
legends, whatever their names are and whether or not they have any. -/
theorem Plot.legends_of_sources_differ {given : List Source} {set : SourceSet}
    (hset : SourceSet.ofSources given = .ok set) {c : Config} {p : Plot}
    (hplot : ofConfig? c set = some p) :
    let drawn := c.selection.series set
    let legend (s : Series) : String := s.legend (1 < (c.selection.activeSources set).length)
    p.draw = "plot ['" ++ c.window.start.minuteText ++ "':'" ++ c.window.stop.minuteText
        ++ "'][" ++ c.yRange.text ++ "] "
        ++ Text.join ", " (drawn.map fun s =>
          "'" ++ Series.rowFilter ++ s.source.label ++ "' u " ++ s.columnsText c.missing
            ++ " t '" ++ legend s ++ "' w " ++ c.style.text ++ " lw " ++ c.lineWidth.text) ∧
      ((∃ a ∈ drawn, ∃ b ∈ drawn, a.source ≠ b.source) →
        (∀ s ∈ drawn, legend s = (s.source.columnName? s.column).getD
          (s.source.letter.toString ++ toString s.column)
            ++ " (" ++ s.source.letter.toUpper.toString ++ ")") ∧
        ∀ a ∈ drawn, ∀ b ∈ drawn, a.source ≠ b.source → legend a ≠ legend b) := by
  intro drawn legend
  constructor
  · rw [ofConfig?_eq] at hplot
    split at hplot <;> cases hplot
    rfl
  · rintro ⟨a, ha, b, hb, hne⟩
    have hmany : decide (1 < (c.selection.activeSources set).length) = true :=
      decide_eq_true (Selection.one_lt_length_activeSources ha hb hne)
    have hlegend : ∀ s, legend s = s.legend true := by
      intro s
      show s.legend _ = s.legend true
      rw [hmany]
    constructor
    · intro s _
      rw [hlegend, Series.legend_tagged, Source.tag, String.append_assoc, String.append_assoc,
        String.append_assoc]
    · intro a ha b hb hne heq
      rw [hlegend, hlegend] at heq
      have hmem : ∀ s ∈ drawn, s.source ∈ set.sources := fun s hs =>
        ((Selection.mem_series_iff hset).mp hs).1
      have hletter : ∀ s ∈ drawn, s.source.letter ∈ sourceLetters := fun s hs =>
        (SourceSet.exists_given_of_mem_sources hset (hmem s hs)).1
      -- A set has one source of each letter.
      exact hne (SourceSet.eq_of_letter_eq hset (hmem a ha) (hmem b hb)
        (Series.letter_eq_of_legend_eq (hletter a ha) (hletter b hb) heq))

/-- Of three files, the first one has a column with the name that is the legend of the second
one, and the third one has no header. -/
theorem Plot.legends_of_sources_differ_of_tagged_name :
    let first := { pairOfFiles.sources[0] with names := ["temp (B)"] }
    let second := { pairOfFiles.sources[1] with names := ["temp"] }
    let third := { pairOfFiles.sources[1] with letter := 'c', names := [], label := "c.csv" }
    let set := { pairOfFiles with sources := [first, second, third] }
    let c := pairOfFiles.config [⟨none, some 2⟩]
    let a : Series := ⟨first, 2⟩
    let b : Series := ⟨second, 2⟩
    SourceSet.ofSources set.sources = .ok set ∧ a ∈ c.selection.series set ∧
      b ∈ c.selection.series set ∧ a.source ≠ b.source ∧
      a.legend false = b.legend true ∧ a.legend true ≠ b.legend true ∧
      ∃ p, ofConfig? c set = some p ∧
        p.draw = "plot ['2013-06-01 05:00':'2013-06-01 10:00'][:] " ++
          "'<sed -n \"s/^[0-9]/&/p\" a.csv' u 1:($2) t 'temp (B) (A)' w lines lw 1, " ++
          "'<sed -n \"s/^[0-9]/&/p\" b.csv' u 1:($2) t 'temp (B)' w lines lw 1, " ++
          "'<sed -n \"s/^[0-9]/&/p\" c.csv' u 1:($2) t 'c2 (C)' w lines lw 1" := by
  intro first second third set c a b
  have hset : SourceSet.ofSources set.sources = .ok set := rfl
  have hplot := (ofConfig?_eq c set).trans (if_neg (by decide))
  have ha : a ∈ c.selection.series set := by decide
  have hb : b ∈ c.selection.series set := by decide
  have hne : a.source ≠ b.source := by decide
  obtain ⟨-, hlegends⟩ := legends_of_sources_differ hset hplot
  obtain ⟨-, hdiffer⟩ := hlegends ⟨a, ha, b, hb, hne⟩
  exact ⟨hset, ha, hb, hne, by decide, hdiffer a ha b hb hne, _, hplot, by decide +kernel⟩

end SeriesPlot
