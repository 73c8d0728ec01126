import SeriesPlot.Proofs.Directive.Plot
import SeriesPlot.Proofs.Source.LastColumn

/-!
# `SeriesPlot.Proofs.Directive.Title`: sources in the title and sources that are drawn

The derived title names every source that an item of the selection mentions. A source is
drawn if an item denotes a column that the source can have. So every source that is drawn is
named, but an item can mention a source and draw nothing of it.

* `Selection.mem_activeSources_iff`: a source is active iff some item mentions it
  (`Selection.Item.Mentions`).
* `Selection.mem_series_iff`: a series is drawn iff its source can have the column and some item
  stands for it (`Selection.Item.Denotes`).
* `title_names_drawn_iff`: when the title names just the sources that are drawn. Both lists are
  characterised by the items, so the condition is about items too.
* `title_names_source_not_drawn`: a selection for which it names one more.

Whether a source can have a column is up to the columns that it counts, which are words of 16
bits. The statements go by that count, so they hold for any number of names.
-/

set_option autoImplicit false

namespace SeriesPlot

open SeriesPlot.Proofs.Support

/-- Letters tell the sources of a set apart, so equal letters and columns are all there is
to a series. -/
theorem Series.eq_of_same {given : List Source} {set : SourceSet}
    (hset : SourceSet.ofSources given = .ok set) {a b : Series} (ha : a.source ∈ set.sources)
    (hb : b.source ∈ set.sources) (h : a.same b = true) : a = b := by
  obtain ⟨hletter, hcolumn⟩ : a.source.letter = b.source.letter ∧ a.column = b.column := by
    simpa [same] using h
  have hsource := SourceSet.eq_of_letter_eq hset ha hb hletter
  obtain ⟨source, column⟩ := a
  obtain ⟨source', column'⟩ := b
  rw [Series.mk.injEq]
  exact ⟨hsource, hcolumn⟩

namespace Selection

/-- An item asks for columns of a source, either by its letter or along with all others. -/
def Item.Mentions (item : Item) (source : Source) : Prop :=
  item.source = none ∨ item.source = some source.letter

/-- A series is among those that an item stands for, whether or not its source has it. -/
def Item.Denotes (item : Item) (drawn : Series) : Prop :=
  match item.source, item.column with
  | some letter, some column => drawn.source.letter = letter ∧ drawn.column = column
  | some letter, none =>
    drawn.source.letter = letter ∧
      firstValueColumn ≤ drawn.column ∧ drawn.column ≤ drawn.source.lastColumn
  | none, some column => drawn.column = column
  | none, none => False

variable {given : List Source} {s : Selection} {set : SourceSet}

/-- A source is active iff some item mentions it. -/
theorem mem_activeSources_iff {source : Source} :
    source ∈ s.activeSources set ↔
      source ∈ set.sources ∧ ∃ item ∈ s.items, item.Mentions source := by
  have hspans : s.spansAllSources = true ↔ ∃ item ∈ s.items, item.source = none := by
    simp [spansAllSources]
  have hletters : s.letters.contains source.letter = true ↔
      ∃ item ∈ s.items, item.source = some source.letter := by
    simp [letters]
  rw [activeSources, List.mem_filter, Bool.or_eq_true, hspans, hletters]
  unfold Item.Mentions
  grind

/-- What is drawn for an item are the series of the set that it denotes. -/
theorem Item.mem_series_iff (hset : SourceSet.ofSources given = .ok set) {item : Item}
    {drawn : Series} :
    drawn ∈ item.series set ↔ drawn.source ∈ set.sources ∧ item.Denotes drawn := by
  obtain ⟨letter?, column?⟩ := item
  obtain ⟨source, column⟩ := drawn
  unfold Item.series Item.Denotes
  -- One case for each of the four forms of an item.
  cases letter? with
  | none =>
    cases column? with
    | none => simp
    | some column' =>
      simp only [List.mem_map, Series.mk.injEq]
      grind
  | some letter =>
    cases column? with
    | none =>
      simp only [List.mem_flatMap, Option.mem_toList, SourceSet.get?_eq_some_iff hset,
        List.mem_map, Source.mem_columns_iff, Series.mk.injEq]
      grind
    | some column' =>
      simp only [List.mem_map, Option.mem_toList, SourceSet.get?_eq_some_iff hset]
      grind

/-- A series is drawn iff its source can have the column and some item stands for it. -/
theorem mem_series_iff (hset : SourceSet.ofSources given = .ok set) {drawn : Series} :
    drawn ∈ s.series set ↔
      drawn.source ∈ set.sources ∧ drawn.source.mayHave drawn.column = true ∧
        ∃ item ∈ s.items, item.Denotes drawn := by
  have hmem : drawn ∈ (s.items.flatMap (·.series set)).filter
      (fun drawn => drawn.source.mayHave drawn.column) ↔
      drawn.source ∈ set.sources ∧ drawn.source.mayHave drawn.column = true ∧
        ∃ item ∈ s.items, item.Denotes drawn := by
    simp only [List.mem_filter, List.mem_flatMap, Item.mem_series_iff hset]
    grind
  rw [← hmem]
  refine ⟨mem_of_mem_eraseDupsBy, fun h => ?_⟩
  -- What is left in the place of a series is the series itself.
  obtain ⟨kept, hkept, heq⟩ := exists_mem_eraseDupsBy h
  rcases heq with rfl | hsame
  · exact hkept
  · have hlist := (List.mem_filter.mp (mem_of_mem_eraseDupsBy hkept)).1
    obtain ⟨item, -, hitem⟩ := List.mem_flatMap.mp hlist
    rw [Series.eq_of_same hset (hmem.mp h).1 ((Item.mem_series_iff hset).mp hitem).1 hsame]
    exact hkept

end Selection

/-- In every plot, the title names all sources that are drawn. It names just those iff, of
every source that some item mentions, some item denotes a column that the source can
have. -/
theorem title_names_drawn_iff {given : List Source} {set : SourceSet}
    (hset : SourceSet.ofSources given = .ok set) {c : Config} {p : Plot}
    (hplot : Plot.ofConfig? c set = some p) :
    p.draw = c.drawDirective set (c.selection.series set) ∧
      (∀ drawn ∈ c.selection.series set, drawn.source ∈ c.selection.activeSources set) ∧
      ((∀ source, source ∈ c.selection.activeSources set ↔
          ∃ drawn ∈ c.selection.series set, drawn.source = source) ↔
        ∀ source ∈ set.sources, (∃ item ∈ c.selection.items, item.Mentions source) →
          ∃ item ∈ c.selection.items, ∃ column, item.Denotes ⟨source, column⟩ ∧
            source.mayHave column = true) := by
  rw [Plot.ofConfig?_eq] at hplot
  split at hplot
  · cases hplot
  cases hplot
  refine ⟨rfl, fun _ => Selection.mem_activeSources_of_mem_series, ?_⟩
  -- A source is named for an item that mentions it and drawn for one that denotes a column,
  -- which need not be the same item.
  constructor
  · intro hsame source hsource hmentions
    obtain ⟨drawn, hdrawn, rfl⟩ :=
      (hsame source).mp (Selection.mem_activeSources_iff.mpr ⟨hsource, hmentions⟩)
    obtain ⟨-, hcolumn, item, hitem, hdenotes⟩ := (Selection.mem_series_iff hset).mp hdrawn
    exact ⟨item, hitem, drawn.column, hdenotes, hcolumn⟩
  · intro hdenoted source
    constructor
    · intro hactive
      obtain ⟨hsource, hmentions⟩ := Selection.mem_activeSources_iff.mp hactive
      obtain ⟨item, hitem, column, hdenotes, hcolumn⟩ := hdenoted source hsource hmentions
      exact ⟨⟨source, column⟩,
        (Selection.mem_series_iff hset).mpr ⟨hsource, hcolumn, item, hitem, hdenotes⟩, rfl⟩
    · rintro ⟨drawn, hdrawn, rfl⟩
      exact Selection.mem_activeSources_of_mem_series hdrawn

/-- Two files that overlap by five hours. The first has two value columns, the second
one. -/
def pairOfFiles : SourceSet :=
  let first : Source := {
    letter := 'a', names := ["temp", "rh"], label := "a.csv"
    start := (Instant.ofMillis? 1370044800000).get (by decide)
    stop := (Instant.ofMillis? 1370080800000).get (by decide) }
  let second : Source := {
    letter := 'b', names := ["temp"], label := "b.csv"
    start := (Instant.ofMillis? 1370062800000).get (by decide)
    stop := (Instant.ofMillis? 1370098800000).get (by decide) }
  { sources := [first, second]
    union := ⟨first.start, second.stop, by decide⟩
    overlap := some ⟨second.start, first.stop, by decide⟩ }

/-- The two files make up a set as they are. -/
theorem ofSources_pairOfFiles : SourceSet.ofSources pairOfFiles.sources = .ok pairOfFiles := rfl

/-- The usual state over the two files but for its selection. -/
def pairOfFiles.config (items : List Selection.Item) : Config where
  window := pairOfFiles.initialWindow
  yRange := .auto
  selection := .ofItems items
  style := .lines
  lineWidth := 1
  missing := none
  title := .auto
  ticks := .auto
  echo := false
  titleDue := true
  ticksDue := true
  defaults := { style := .lines, lineWidth := 1, missing := none }

/-- A third column of both files and the second one of the file `b`. The file `b` has no
third column, but it is drawn all the same. -/
theorem title_names_drawn_iff_of_bare_column :
    let c := pairOfFiles.config [⟨none, some 3⟩, ⟨some 'b', some 2⟩]
    SourceSet.ofSources pairOfFiles.sources = .ok pairOfFiles ∧
      ∃ p, Plot.ofConfig? c pairOfFiles = some p ∧
        ∀ source, source ∈ c.selection.activeSources pairOfFiles ↔
          ∃ drawn ∈ c.selection.series pairOfFiles, drawn.source = source := by
  intro c
  have hplot := (Plot.ofConfig?_eq c pairOfFiles).trans (if_neg (by decide))
  obtain ⟨-, -, hiff⟩ := title_names_drawn_iff ofSources_pairOfFiles hplot
  refine ⟨ofSources_pairOfFiles, _, hplot, hiff.mpr ?_⟩
  -- Each of the two items draws something, of one file each.
  have hitems : c.selection.items = [⟨none, some 3⟩, ⟨some 'b', some 2⟩] := by decide
  rw [hitems]
  refine List.forall_mem_cons.mpr ⟨fun _ => ?_, List.forall_mem_singleton.mpr fun _ => ?_⟩
  · exact ⟨_, List.mem_cons_self, 3, rfl, by decide⟩
  · exact ⟨_, List.mem_cons_of_mem _ List.mem_cons_self, 2, ⟨rfl, rfl⟩, by decide⟩

/-- A column of the file `a`, and one that the file `b` does not have. The title names both
files, and the legend says which file it is, but only the file `a` is drawn. -/
theorem title_names_source_not_drawn :
    let c := pairOfFiles.config [⟨some 'a', some 2⟩, ⟨some 'b', some 9⟩]
    SourceSet.ofSources pairOfFiles.sources = .ok pairOfFiles ∧
      ({ selection := some c.selection } : Settings).build pairOfFiles.initialWindow = .ok c ∧
      ∃ p, Plot.ofConfig? c pairOfFiles = some p ∧
        p.title = some "set title \"a.csv (A), b.csv (B)\"" ∧
        (c.selection.activeSources pairOfFiles).map (·.letter) = ['a', 'b'] ∧
        (c.selection.series pairOfFiles).map (·.source.letter) = ['a'] ∧
        p.draw = "plot ['2013-06-01 05:00':'2013-06-01 10:00'][:] " ++
          "'<sed -n \"s/^[0-9]/&/p\" a.csv' u 1:($2) t 'temp (A)' w lines lw 1" := by
  intro c
  refine ⟨ofSources_pairOfFiles, ?_, _,
    (Plot.ofConfig?_eq c pairOfFiles).trans (if_neg (by decide)), ?_, by decide, by decide, ?_⟩
  · unfold Settings.build
    dsimp only
    rw [if_pos (by decide +kernel)]
    rfl
  · decide
  · decide +kernel

end SeriesPlot
