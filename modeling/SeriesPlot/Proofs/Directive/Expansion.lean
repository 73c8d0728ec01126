import SeriesPlot.Proofs.Directive.Title

/-!
# `SeriesPlot.Proofs.Directive.Expansion`: from the items to the clauses

The items of a selection overlap freely, and one can ask for what its source does not have.
`Selection.MentionedBefore` is the order in which series are mentioned first: item by item, and
in one item by the letters of the sources and then by the columns.

* `Selection.pairwise_series`: what is drawn is in this order, and so nothing is drawn twice
  (`Selection.nodup_series`).
* `Selection.mem_series_iff`: it is all that some item stands for and the source can have.
* `Plot.series_expansion_exact`: with `Plot.ofConfig?_eq` this is what the clauses of a plot are,
  and when there is no plot.

The series of one item are in order (`Selection.Item.pairwise_series`). Of the series of several
items repetitions are left out, and the first mention is the one that stays
(`Selection.pairwise_eraseDupsBy_flatMap`). Series are compared by letter and
column, and letters tell the sources of a set apart.
-/

set_option autoImplicit false

namespace SeriesPlot

open SeriesPlot.Proofs.Support

/-- By the letters of the sources, and in one source by the columns. -/
def Series.Precedes (a b : Series) : Prop :=
  a.source.letter < b.source.letter ∨
    (a.source.letter = b.source.letter ∧ a.column < b.column)

/-- A series that comes later in the order is another one. -/
theorem Series.same_eq_false_of_precedes {a b : Series} (h : a.Precedes b) :
    b.same a = false := by
  rw [Bool.eq_false_iff]
  intro hsame
  obtain ⟨hletter, hcolumn⟩ : b.source.letter = a.source.letter ∧ b.column = a.column := by
    simpa [same] using hsame
  rcases h with hlt | ⟨-, hlt⟩
  · rw [hletter] at hlt
    exact Char.lt_irrefl _ hlt
  · omega

/-- The sources of a set are in the order of their letters. -/
theorem SourceSet.pairwise_letter_lt {given : List Source} {set : SourceSet}
    (hset : ofSources given = .ok set) :
    set.sources.Pairwise fun a b => a.letter < b.letter := by
  have hletters : sourceLetters.Pairwise (· < ·) := by decide
  have htake := hletters.sublist (List.take_sublist given.length sourceLetters)
  rw [← letters_of_ofSources hset] at htake
  exact List.pairwise_map.mp htake

namespace Selection

/-- Of two series, the items mention `a` first. The first item that stands for one of them
stands for `a`, and if it stands for both, then `a` precedes `b`. -/
inductive MentionedBefore (a b : Series) : List Item → Prop
  | here {item : Item} {rest : List Item} : item.Denotes a → (item.Denotes b → a.Precedes b) →
      MentionedBefore a b (item :: rest)
  | later {item : Item} {rest : List Item} : ¬item.Denotes a → ¬item.Denotes b →
      MentionedBefore a b rest → MentionedBefore a b (item :: rest)

variable {given : List Source} {set : SourceSet}

/-- The series of one item are in order. -/
theorem Item.pairwise_series (hset : SourceSet.ofSources given = .ok set) (item : Item) :
    (item.series set).Pairwise Series.Precedes := by
  obtain ⟨letter?, column?⟩ := item
  cases letter? with
  | none =>
    cases column? with
    | none => exact .nil
    | some column =>
      exact List.pairwise_map.mpr ((SourceSet.pairwise_letter_lt hset).imp .inl)
  | some letter =>
    -- There is one source with the letter or none.
    cases hget : set.get? letter with
    | none => cases column? <;> simp [series, hget]
    | some source =>
      cases column? with
      | some column => simp [series, hget]
      | none =>
        have hcolumns : (source.columns.map fun column =>
            (⟨source, column⟩ : Series)).Pairwise Series.Precedes :=
          List.pairwise_map.mpr (.imp (fun hlt => .inr ⟨rfl, hlt⟩) List.pairwise_lt_range')
        simpa [series, hget] using hcolumns

/-- What is left of the series of some items, once for each, is in the order of first mention.
It makes no difference which series are left out from the start. -/
theorem pairwise_eraseDupsBy_flatMap (hset : SourceSet.ofSources given = .ok set)
    (items : List Item) (kept : Series → Bool) :
    (((items.flatMap (·.series set)).filter kept).eraseDupsBy Series.same).Pairwise
      fun a b => MentionedBefore a b items := by
  induction items generalizing kept with
  | nil => simp
  | cons item rest ih =>
    have hordered : ((item.series set).filter kept).Pairwise Series.Precedes :=
      (item.pairwise_series hset).filter kept
    have hdistinct : ((item.series set).filter kept).eraseDupsBy Series.same =
        (item.series set).filter kept :=
      eraseDupsBy_eq_self (hordered.imp Series.same_eq_false_of_precedes)
    have hdenotes : ∀ a ∈ (item.series set).filter kept, item.Denotes a := fun a ha =>
      ((Item.mem_series_iff hset).mp (List.mem_filter.mp ha).1).2
    rw [List.flatMap_cons, List.filter_append, eraseDupsBy_append, hdistinct, List.filter_filter]
    -- What comes after the series of the first item repeats none of them.
    have hfresh : ∀ b ∈ (((rest.flatMap (·.series set)).filter fun b =>
        (((item.series set).filter kept).all fun a => !b.same a) && kept b).eraseDupsBy
          Series.same), ¬item.Denotes b := by
      intro b hb hdenotes
      obtain ⟨hmem, hkept⟩ := List.mem_filter.mp (mem_of_mem_eraseDupsBy hb)
      obtain ⟨later, -, hlater⟩ := List.mem_flatMap.mp hmem
      have hsource := ((Item.mem_series_iff hset).mp hlater).1
      have hagain := (Item.mem_series_iff hset).mpr ⟨hsource, hdenotes⟩
      simp only [Bool.and_eq_true, List.all_eq_true] at hkept
      have hself := hkept.1 b (List.mem_filter.mpr ⟨hagain, hkept.2⟩)
      simp [Series.same] at hself
    refine List.pairwise_append.mpr ⟨?_, ?_, fun a ha b hb => ?_⟩
    · exact hordered.imp_of_mem fun ha _ hab => .here (hdenotes _ ha) fun _ => hab
    · exact (ih _).imp_of_mem fun ha hb hab => .later (hfresh _ ha) (hfresh _ hb) hab
    · exact .here (hdenotes a ha) fun hdenotes => absurd hdenotes (hfresh b hb)

/-- The series of a selection are in the order in which they are mentioned first. -/
theorem pairwise_series (hset : SourceSet.ofSources given = .ok set) (s : Selection) :
    (s.series set).Pairwise fun a b => MentionedBefore a b s.items :=
  pairwise_eraseDupsBy_flatMap hset s.items _

/-- No series is drawn twice. -/
theorem nodup_series (s : Selection) : (s.series set).Nodup := by
  refine (pairwise_eraseDupsBy _).imp fun {a b} hdistinct heq => ?_
  simp [heq, Series.same] at hdistinct

end Selection

/-- Whether a source can have a column, in numbers. -/
theorem Source.mayHave_iff {source : Source} {column : Nat} :
    source.mayHave column = true ↔
      2 ≤ column ∧ (source.names = [] ∨ column ≤ source.lastColumn) := by
  rw [mayHave, Bool.and_eq_true, decide_eq_true_iff, Bool.or_eq_true, List.isEmpty_iff,
    decide_eq_true_iff]
  rfl

/-- The series of a plot are those that some item stands for and that their source can have.
Each of them is in the plot once, in the order in which they are first mentioned, and the
clauses of the plot are theirs. There is no plot iff there is no such series, whatever the
title and the time labels are and whether or not they are due. -/
theorem Plot.series_expansion_exact {given : List Source} {set : SourceSet}
    (hset : SourceSet.ofSources given = .ok set) (c : Config) :
    let drawn := c.selection.series set
    let tagged := decide (1 < (c.selection.activeSources set).length)
    let Asked (source : Source) (column : Nat) : Prop :=
      source ∈ set.sources ∧ (∃ item ∈ c.selection.items, item.Denotes ⟨source, column⟩) ∧
        2 ≤ column ∧ (source.names = [] ∨ column ≤ source.lastColumn)
    (∀ source column, (⟨source, column⟩ : Series) ∈ drawn ↔ Asked source column) ∧
    (∀ source column, Asked source column → drawn.count ⟨source, column⟩ = 1) ∧
    (drawn.Pairwise fun a b => Selection.MentionedBefore a b c.selection.items) ∧
    (∀ p, ofConfig? c set = some p →
      p.draw = "plot ['" ++ c.window.start.minuteText ++ "':'" ++ c.window.stop.minuteText
        ++ "'][" ++ c.yRange.text ++ "] "
        ++ Text.join ", " (drawn.map fun s => s.clause c tagged)) ∧
    ∀ (title ticks : TextMode) (titleDue ticksDue : Bool),
      ofConfig? { c with title, ticks, titleDue, ticksDue } set = none ↔
        ¬∃ source column, Asked source column := by
  intro drawn tagged Asked
  have hasked : ∀ source column, (⟨source, column⟩ : Series) ∈ drawn ↔ Asked source column := by
    intro source column
    rw [Selection.mem_series_iff hset, Source.mayHave_iff]
    exact and_congr_right fun _ => and_comm
  refine ⟨hasked, fun source column h => ?_, Selection.pairwise_series hset c.selection,
    fun p hplot => ?_, fun title ticks titleDue ticksDue => ?_⟩
  · have hmem := (hasked source column).mpr h
    rw [(Selection.nodup_series c.selection).count, if_pos hmem]
  · rw [ofConfig?_eq] at hplot
    split at hplot
    · cases hplot
    · cases hplot
      rfl
  · -- No plot means no series, and the series are the same for all of these states.
    have hnone : ofConfig? { c with title, ticks, titleDue, ticksDue } set = none ↔ drawn = [] := by
      rw [ofConfig?_eq]
      split
      · exact iff_of_true rfl ‹_›
      · exact iff_of_false nofun ‹_›
    rw [hnone, List.eq_nil_iff_forall_not_mem]
    constructor
    · rintro hempty ⟨source, column, h⟩
      exact hempty _ ((hasked source column).mpr h)
    · intro hnot series hmem
      exact hnot ⟨_, _, (hasked _ _).mp hmem⟩

/-- All columns of the file `a`, the second one of both files, a column that the file `b` does
not have, a file that there is not, and the third column of both files, of which the file `b`
does not have it either. -/
theorem Plot.series_expansion_exact_of_overlapping_items :
    let items : List Selection.Item :=
      [⟨some 'a', none⟩, ⟨none, some 2⟩, ⟨some 'b', some 9⟩, ⟨some 'd', none⟩, ⟨none, some 3⟩]
    let c := pairOfFiles.config items
    let drawn := c.selection.series pairOfFiles
    SourceSet.ofSources pairOfFiles.sources = .ok pairOfFiles ∧ c.selection.items = items ∧
      drawn.map (fun s => (s.source.letter, s.column)) = [('a', 2), ('a', 3), ('b', 2)] ∧
      (drawn.Pairwise fun a b => Selection.MentionedBefore a b items) ∧
      ∃ p, Plot.ofConfig? c pairOfFiles = some p ∧
        p.draw = "plot ['2013-06-01 05:00':'2013-06-01 10:00'][:] " ++
          "'<sed -n \"s/^[0-9]/&/p\" a.csv' u 1:($2) t 'temp (A)' w lines lw 1, " ++
          "'<sed -n \"s/^[0-9]/&/p\" a.csv' u 1:($3) t 'rh (A)' w lines lw 1, " ++
          "'<sed -n \"s/^[0-9]/&/p\" b.csv' u 1:($2) t 'temp (B)' w lines lw 1" := by
  intro items c drawn
  have hitems : c.selection.items = items := by decide
  -- The plot exists since there are series; its text is the one that the theorem gives.
  have hplot := (Plot.ofConfig?_eq c pairOfFiles).trans (if_neg (by decide))
  obtain ⟨-, -, hordered, hdraw, -⟩ := Plot.series_expansion_exact ofSources_pairOfFiles c
  rw [hitems] at hordered
  exact ⟨ofSources_pairOfFiles, hitems, by decide, hordered, _, hplot,
    (hdraw _ hplot).trans (by decide +kernel)⟩

end SeriesPlot
