import Mathlib.Algebra.BigOperators.Group.List.Basic
import Mathlib.Algebra.GroupWithZero.Nat
import SeriesPlot.Proofs.Directive.Plain
import SeriesPlot.Proofs.Directive.Plot

/-!
# `SeriesPlot.Proofs.Directive.Occurrences`: how often a character is in a directive

A character that no number, time or column is written with can only come from the parts of a
directive that are always the same or from the texts that come from outside: the labels, the
names of columns, the style, and the test for missing values. The lemmas here count it,
whichever character it is:

* `Config.occurrences_drawDirective`: in the directive that draws.
* `Config.occurrences_titleDirective?`: in the derived title.

Counting goes the way that a directive is put together. Occurrences add up
(`occurrences_append`, `occurrences_join`), and for a plain text there are none
(`IsPlain.occurrences_eq_zero`). What a series brings in from its file is
`Series.ownOccurrences`. `Proofs/Directive/Quotes.lean` has the counts for quotes, and
`Proofs/Directive/OneLine.lean` those for line feeds.
-/

set_option autoImplicit false

namespace SeriesPlot

open SeriesPlot.Text

namespace Text

/-- How often a character is in a text. -/
def occurrences (c : Char) (text : String) : Nat := text.toList.count c

variable {c : Char}

/-- The occurrences in two texts add up. -/
@[simp] theorem occurrences_append (first second : String) :
    occurrences c (first ++ second) = occurrences c first + occurrences c second := by
  simp [occurrences]

/-- A character occurs in a text unless it is counted zero times. -/
theorem occurrences_eq_zero_iff {text : String} : occurrences c text = 0 ↔ c ∉ text.toList :=
  List.count_eq_zero

/-- A plain text has none of any other character. -/
theorem IsPlain.occurrences_eq_zero {text : String} (h : IsPlain text.toList)
    (hc : isPlain c = false) : occurrences c text = 0 :=
  occurrences_eq_zero_iff.mpr (h.not_mem hc)

/-- Only the texts that are joined count if the separator does not have the character. -/
theorem occurrences_join {separator : String} (h : occurrences c separator = 0)
    (texts : List String) :
    occurrences c (join separator texts) = (texts.map (occurrences c)).sum := by
  induction texts with
  | nil => rfl
  | cons text rest ih =>
    cases rest with
    | nil => simp [join]
    | cons next rest =>
      show occurrences c (text ++ separator ++ join separator (next :: rest)) = _
      rw [occurrences_append, occurrences_append, h, ih, Nat.add_zero, ← List.sum_cons]
      rfl

end Text

/-! ### Series -/

/-- How often a character is in a test for missing values, if there is one. -/
def MissingTest.occurrences (c : Char) (test? : Option MissingTest) : Nat :=
  Text.occurrences c ((test?.map text).getD "")

/-- The condition for missing values is free of a character if its own text is. -/
theorem MissingTest.occurrences_eq_zero_iff {c : Char} {test? : Option MissingTest} :
    occurrences c test? = 0 ↔ ∀ test, test? = some test → c ∉ test.text.toList := by
  unfold occurrences
  rw [Text.occurrences_eq_zero_iff]
  cases test? with
  | none => simp
  | some test => simp

namespace Series

variable {s : Series} {c : Char}

/-- How often a character is in what a series takes from its file: the label, and the name of
the column if it has one. -/
def ownOccurrences (c : Char) (s : Series) : Nat :=
  occurrences c s.source.label + occurrences c ((s.source.columnName? s.column).getD "")

/-- A series brings a character in by its label or by the name of its column. -/
theorem ownOccurrences_eq_zero_iff :
    s.ownOccurrences c = 0 ↔
      c ∉ s.source.label.toList ∧
        ∀ name, s.source.columnName? s.column = some name → c ∉ name.toList := by
  unfold ownOccurrences
  rw [Nat.add_eq_zero_iff, occurrences_eq_zero_iff, occurrences_eq_zero_iff]
  cases s.source.columnName? s.column with
  | none => simp
  | some name => simp

/-- The parts of a clause that are the same for each series. -/
def frame : String := "'" ++ rowFilter ++ "' u " ++ " t '" ++ "' w " ++ " lw "

/-- In a legend the name of the column counts, and its tag does not. -/
theorem occurrences_legend (hc : isPlain c = false) (h : s.source.letter ∈ sourceLetters)
    (tagged : Bool) :
    occurrences c (s.legend tagged) =
      occurrences c ((s.source.columnName? s.column).getD "") := by
  have hname : occurrences c ((s.source.columnName? s.column).getD
      (s.source.letter.toString ++ toString s.column)) =
        occurrences c ((s.source.columnName? s.column).getD "") := by
    cases s.source.columnName? s.column with
    | some name => rfl
    | none =>
      -- In place of a name there is a letter and a number.
      rw [Option.getD_none, Option.getD_none, occurrences_append,
        (isPlain_sourceLetter h).1.occurrences_eq_zero hc,
        (isPlain_toString s.column).occurrences_eq_zero hc]
      rfl
  unfold legend
  dsimp only
  split
  · rw [occurrences_append, hname, (Source.isPlain_tag h).occurrences_eq_zero hc, Nat.add_zero]
  · exact hname

/-- In the columns of a series only the test for missing values counts. -/
theorem occurrences_columnsText (hc : isPlain c = false) (s : Series)
    (missing : Option MissingTest) :
    occurrences c (s.columnsText missing) = MissingTest.occurrences c missing := by
  have hnumber : ∀ n : Nat, occurrences c (toString n) = 0 := fun n =>
    (isPlain_toString n).occurrences_eq_zero hc
  have hliteral : ∀ text : String, IsPlain text.toList → occurrences c text = 0 := fun _ h =>
    h.occurrences_eq_zero hc
  unfold columnsText MissingTest.occurrences
  -- The frame has another text around the column if there is a test.
  cases missing with
  | none =>
    simp only [occurrences_append, hnumber, hliteral ":(" (by decide), hliteral "$" (by decide),
      hliteral ")" (by decide)]
    rfl
  | some test =>
    simp only [occurrences_append, hnumber, hliteral ":(" (by decide), hliteral "$" (by decide),
      hliteral "?1/0:" (by decide), hliteral ")" (by decide)]
    simp

/-- In a clause count the frame, the style, the test for missing values and the texts of the
series. -/
theorem occurrences_clause (hc : isPlain c = false) (h : s.source.letter ∈ sourceLetters)
    (config : Config) (tagged : Bool) :
    occurrences c (s.clause config tagged) =
      occurrences c frame + occurrences c config.style.text +
        MissingTest.occurrences c config.missing + s.ownOccurrences c := by
  unfold clause frame ownOccurrences
  simp only [occurrences_append, occurrences_legend hc h, s.occurrences_columnsText hc,
    config.lineWidth.isPlain_text.occurrences_eq_zero hc]
  omega

end Series

/-! ### Directives -/

namespace Config

variable {set : SourceSet} {c : Char}

/-- The parts of the directive that draws that are not of a series. -/
def drawFrame : String := "plot ['" ++ "':'" ++ "'][" ++ "] "

/-- Every series has the same parts and its own, and what separates them has only plain
characters. -/
theorem occurrences_drawDirective (hc : isPlain c = false)
    (hset : ∀ source ∈ set.sources, source.letter ∈ sourceLetters) (config : Config) :
    let series := config.selection.series set
    occurrences c (config.drawDirective set series) =
      occurrences c drawFrame +
        (occurrences c Series.frame + occurrences c config.style.text +
          MissingTest.occurrences c config.missing) * series.length +
        (series.map (Series.ownOccurrences c)).sum := by
  intro series
  have hseparator : occurrences c ", " = 0 :=
    IsPlain.occurrences_eq_zero (by decide) hc
  have hclauses : occurrences c (join ", " (series.map fun s =>
      s.clause config (1 < (config.selection.activeSources set).length))) =
        (series.map fun s => occurrences c Series.frame + occurrences c config.style.text +
          MissingTest.occurrences c config.missing + s.ownOccurrences c).sum := by
    rw [occurrences_join hseparator, List.map_map]
    refine congrArg List.sum (List.map_congr_left fun s hs => ?_)
    have hsource : s.source ∈ set.sources :=
      (List.mem_filter.mp (Selection.mem_activeSources_of_mem_series hs)).1
    rw [Function.comp_apply, Series.occurrences_clause hc (hset _ hsource)]
  -- What all clauses share counts once for each, and what is a series' own is summed up.
  have hsum : ∀ same : Nat, (series.map fun s => same + s.ownOccurrences c).sum =
      same * series.length + (series.map (Series.ownOccurrences c)).sum := by
    intro same
    rw [List.sum_map_add]
    simp [Nat.mul_comm]
  unfold drawDirective drawFrame
  simp only [occurrences_append, hclauses, hsum,
    config.window.start.isPlain_minuteText.occurrences_eq_zero hc,
    config.window.stop.isPlain_minuteText.occurrences_eq_zero hc,
    config.yRange.isPlain_text.occurrences_eq_zero hc]
  omega

/-- A derived title is made of labels and tags. -/
theorem occurrences_titleDirective? (hc : isPlain c = false)
    (hset : ∀ source ∈ set.sources, source.letter ∈ sourceLetters) {config : Config}
    (hauto : config.title = .auto) {text : String}
    (h : config.titleDirective? set = some text) :
    occurrences c text = occurrences c "set title \"" + occurrences c "\"" +
      ((config.selection.activeSources set).map fun s => occurrences c s.label).sum := by
  have htags : ∀ s ∈ config.selection.activeSources set, occurrences c s.tag = 0 := by
    intro s hs
    have hsource : s ∈ set.sources := (List.mem_filter.mp hs).1
    exact (Source.isPlain_tag (hset s hsource)).occurrences_eq_zero hc
  unfold titleDirective? at h
  rw [hauto] at h
  obtain ⟨title, htitle, rfl⟩ := Option.map_eq_some_iff.mp h
  suffices hlabels : occurrences c title =
      ((config.selection.activeSources set).map fun s => occurrences c s.label).sum by
    simp only [occurrences_append, hlabels]
    omega
  -- With one source the title is its label, with several each label is followed by a tag.
  unfold Selection.title? at htitle
  split at htitle
  · cases htitle
  · rename_i only honly
    cases htitle
    rw [honly]
    simp
  · cases htitle
    rw [occurrences_join (IsPlain.occurrences_eq_zero (by decide) hc), List.map_map]
    refine congrArg List.sum (List.map_congr_left fun s hs => ?_)
    rw [Function.comp_apply, occurrences_append, htags s hs, Nat.add_zero]

end Config

end SeriesPlot
