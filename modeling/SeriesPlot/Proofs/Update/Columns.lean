import Mathlib.Data.List.Basic
import SeriesPlot.Proofs.Directive.Title
import SeriesPlot.Proofs.Update.Window

/-!
# `SeriesPlot.Proofs.Update.Columns`: stepping stays on columns that are drawn

A step leaves a selection in the uniform form of `Selection.uniform`: one column of the
letters it had before. Further steps start from that form, keep the letters and move the
column alone (`Selection.afterSteps_uniform`), which saturates at the first value column and
at the last column that all sources with a header have (`clampedStep`).

Every source of the letters can have a column between these two, so nothing is filtered out
when the selection is drawn (`Selection.series_uniform`). A step that went one column further
would leave out a series here. `Config.column_steps_clamp` puts the parts together.

* `clampedStep_backward_forward`, `clampedStep_forward_backward`: a step undoes the opposite one
  unless that was held at a bound. From the first step on the column is between the bounds
  (`foldl_clampedStep_bounds`).
* `Selection.step_of_steppedSources_eq_nil`, `Selection.step_of_steppedSources_ne_nil`: the two
  cases of a step. If there is nothing to step through, the selection stays and the user is told.
* `Selection.stepAborts_iff`: the bounds are in order unless a source has as many names as the
  highest column number says. With such a source there is no step at all.
-/

set_option autoImplicit false

namespace SeriesPlot

open SeriesPlot.Proofs.Support

/-! ### The column -/

/-- The column after a step from a column, between the first value column and `last`. -/
def clampedStep (last column : Nat) (forward : Bool) : Nat :=
  max firstValueColumn (min last (if forward then column + 1 else column - 1))

/-- The least of the last columns of some sources, without those that have no header. -/
def leastLastColumn (sources : List Source) : Nat :=
  ((sources.filter (!·.names.isEmpty)).map (·.lastColumn)).min?.getD columnLimit

/-- A step stays off the column of the times. -/
theorem firstValueColumn_le_clampedStep (last column : Nat) (forward : Bool) :
    firstValueColumn ≤ clampedStep last column forward :=
  Nat.le_max_left _ _

/-- A step stays within the limit, if the limit itself leaves a column of values. -/
theorem clampedStep_le {last : Nat} (hlast : firstValueColumn ≤ last) (column : Nat)
    (forward : Bool) : clampedStep last column forward ≤ last :=
  Nat.max_le.mpr ⟨hlast, Nat.min_le_left _ _⟩

/-- From the first step on the column is between the bounds, wherever it was before. -/
theorem foldl_clampedStep_bounds {last column : Nat} (hlast : firstValueColumn ≤ last)
    {steps : List Bool} (hsteps : steps ≠ []) :
    firstValueColumn ≤ steps.foldl (clampedStep last) column ∧
      steps.foldl (clampedStep last) column ≤ last := by
  -- The last step alone puts the column between the bounds.
  obtain ⟨before, forward, rfl⟩ := List.eq_nil_or_concat steps |>.resolve_left hsteps
  rw [List.concat_eq_append, List.foldl_append]
  exact ⟨firstValueColumn_le_clampedStep _ _ _, clampedStep_le hlast _ _⟩

/-- A step back undoes a step forward that the limit did not hold. -/
theorem clampedStep_backward_forward {last column : Nat} (hfirst : firstValueColumn ≤ column)
    (hlast : column < last) :
    clampedStep last (clampedStep last column true) false = column := by
  simp only [clampedStep, if_true, Bool.false_eq_true, if_false]
  omega

/-- A step forward undoes a step back that the first column did not hold. -/
theorem clampedStep_forward_backward {last column : Nat} (hfirst : firstValueColumn < column)
    (hlast : column ≤ last) :
    clampedStep last (clampedStep last column false) true = column := by
  simp only [clampedStep, if_true, Bool.false_eq_true, if_false]
  omega

/-- A fold from an upper bound finds the least element, or the bound in an empty list. -/
private theorem foldl_min_eq {l : List Nat} {n : Nat} (h : ∀ a ∈ l, a ≤ n) :
    l.foldl min n = l.min?.getD n := by
  cases l with
  | nil => rfl
  | cons a l =>
    rw [List.min?_cons', List.foldl_cons, Nat.min_eq_right (h a List.mem_cons_self)]
    rfl

/-- The highest column number is the limit only if no source has a header. -/
theorem Selection.commonLastColumn_eq (sources : List Source) :
    commonLastColumn sources = leastLastColumn sources := by
  refine foldl_min_eq fun column hcolumn => ?_
  obtain ⟨source, -, rfl⟩ := List.mem_map.mp hcolumn
  exact source.lastColumn_le_columnLimit

/-- The limit is within the columns of each source that has any names. -/
theorem leastLastColumn_le {sources : List Source} {source : Source} (h : source ∈ sources)
    (hnames : source.names ≠ []) : leastLastColumn sources ≤ source.lastColumn := by
  have hmem : source.lastColumn ∈
      (sources.filter (!·.names.isEmpty)).map (·.lastColumn) :=
    List.mem_map_of_mem (List.mem_filter.mpr ⟨h, by simpa using hnames⟩)
  unfold leastLastColumn
  cases hmin : ((sources.filter (!·.names.isEmpty)).map (·.lastColumn)).min? with
  | none => simp [List.min?_eq_none_iff.mp hmin] at hmem
  | some least => exact (List.min?_eq_some_iff.mp hmin).2 _ hmem

/-- There is a value column that all of the sources can have, unless one of them has as many
names as the highest column number says. -/
theorem leastLastColumn_lt_firstValueColumn_iff {sources : List Source} :
    leastLastColumn sources < firstValueColumn ↔
      ∃ source ∈ sources, source.names.length = columnLimit := by
  constructor
  · intro hless
    unfold leastLastColumn at hless
    cases hmin : ((sources.filter (!·.names.isEmpty)).map (·.lastColumn)).min? with
    | none =>
      rw [hmin] at hless
      exact absurd hless (by decide)
    | some least =>
      rw [hmin] at hless
      -- The least of the last columns is the last column of one of the sources.
      obtain ⟨source, hsource, rfl⟩ := List.mem_map.mp (List.min?_eq_some_iff.mp hmin).1
      obtain ⟨hmem, hnames⟩ := List.mem_filter.mp hsource
      exact ⟨source, hmem,
        (Source.lastColumn_lt_firstValueColumn_iff (by simpa using hnames)).mp hless⟩
  · rintro ⟨source, hmem, hlength⟩
    have hnames : source.names ≠ [] := by
      intro hempty
      rw [hempty] at hlength
      cases hlength
    exact Nat.lt_of_le_of_lt (leastLastColumn_le hmem hnames)
      ((Source.lastColumn_lt_firstValueColumn_iff hnames).mpr hlength)

/-- No column up to the least of the last ones is one that a source cannot have. -/
theorem Source.mayHave_of_le_leastLastColumn {sources : List Source} {source : Source}
    (h : source ∈ sources) {column : Nat} (hfirst : firstValueColumn ≤ column)
    (hlast : column ≤ leastLastColumn sources) : source.mayHave column = true := by
  unfold mayHave
  by_cases hnames : source.names = []
  · simp [hfirst, hnames]
  · have hsourceLast : column ≤ source.lastColumn :=
      Nat.le_trans hlast (leastLastColumn_le h hnames)
    simp [hfirst, hsourceLast]

namespace Selection

variable {given : List Source} {set : SourceSet} {letters : List Char}

/-! ### The uniform form -/

/-- One column of some letters; of every source if there are no letters. -/
def uniform (letters : List Char) (column : Nat) : Selection :=
  ⟨if letters = [] then [⟨none, some column⟩]
    else letters.map fun letter => ⟨some letter, some column⟩⟩

/-- The letters of a selection are listed once each. -/
theorem nodup_letters (s : Selection) : s.letters.Nodup := nodup_eraseDups _

/-- The uniform form has the letters that it was made of. -/
theorem letters_uniform (h : letters.Nodup) (column : Nat) :
    (uniform letters column).letters = letters := by
  unfold Selection.letters uniform
  by_cases hletters : letters = []
  · simp [hletters]
  · simp [hletters, List.filterMap_map, eraseDups_eq_self h]

/-- The uniform form names its one column, also without letters. -/
theorem firstColumn?_uniform (letters : List Char) (column : Nat) :
    (uniform letters column).firstColumn? = some column := by
  unfold firstColumn? uniform
  cases letters <;> rfl

/-- The selection that a step makes is in the uniform form: no letter is there twice. -/
theorem atColumn_eq_uniform (s : Selection) (column : Nat) :
    s.atColumn column = uniform s.letters column := by
  have hitems : (s.letters.map fun letter => (⟨some letter, some column⟩ : Item)).Nodup :=
    List.pairwise_map.mpr (s.nodup_letters.imp fun hne heq => hne (by simpa using heq))
  unfold atColumn uniform ofItems
  rw [eraseDups_eq_self hitems]
  by_cases hletters : s.letters = []
  · simp [hletters, List.eraseDups_cons]
  · simp [hletters]

/-- The sources that a column step is about. Letters without a source are left out. -/
def steppedSources (s : Selection) (set : SourceSet) : List Source :=
  (s.steppedLetters set).filterMap set.get?

/-- A step is about the same sources for all selections of the same letters. -/
theorem steppedSources_congr {s t : Selection} (h : s.letters = t.letters) :
    s.steppedSources set = t.steppedSources set := by
  unfold steppedSources steppedLetters
  rw [h]

/-- Steps are about each letter once, as no two sources of a set share one. -/
theorem nodup_steppedLetters (hset : SourceSet.ofSources given = .ok set) (s : Selection) :
    (s.steppedLetters set).Nodup := by
  unfold steppedLetters
  split
  · exact SourceSet.nodup_letters hset
  · exact s.nodup_letters

/-- No two of the sources have the same letter, since they are found by different ones. -/
theorem pairwise_steppedSources (hset : SourceSet.ofSources given = .ok set) (s : Selection) :
    (s.steppedSources set).Pairwise fun a b => a.letter ≠ b.letter := by
  refine List.Pairwise.filterMap set.get? ?_ (nodup_steppedLetters hset s)
  intro a b hne source hsource other hother
  rw [(SourceSet.mem_of_get?_eq_some hsource).2, (SourceSet.mem_of_get?_eq_some hother).2]
  exact hne

/-- The sources that are stepped through are in the set. -/
theorem mem_sources_of_mem_steppedSources {s : Selection} {source : Source}
    (h : source ∈ s.steppedSources set) : source ∈ set.sources := by
  obtain ⟨letter, -, hget⟩ := List.mem_filterMap.mp h
  exact (SourceSet.mem_of_get?_eq_some hget).1

/-- The program aborts over a step iff one of the sources that it is about has as many names as
the highest column number says. -/
theorem stepAborts_iff {s : Selection} :
    s.stepAborts set = true ↔
      ∃ source ∈ s.steppedSources set, source.names.length = columnLimit := by
  unfold stepAborts
  rw [decide_eq_true_iff, commonLastColumn_eq]
  exact leastLastColumn_lt_firstValueColumn_iff

/-- Steps in both directions are alike in this, and a new selection is never aborted over. -/
theorem changeAborts_iff {s : Selection} {change : SelectionChange} :
    s.changeAborts set change = true ↔
      (change = .next ∨ change = .previous) ∧
        ∃ source ∈ s.steppedSources set, source.names.length = columnLimit := by
  cases change <;> simp [changeAborts, stepAborts_iff]

/-- Without letters all sources are stepped, for the letters of a set find its sources. -/
theorem steppedSources_of_letters_eq_nil (hset : SourceSet.ofSources given = .ok set)
    {s : Selection} (h : s.letters = []) : s.steppedSources set = set.sources := by
  have hget : ∀ source ∈ set.sources, (set.get? ∘ (·.letter)) source = some source := by
    intro source hsource
    exact (SourceSet.get?_eq_some_iff hset).mpr ⟨hsource, rfl⟩
  unfold steppedSources steppedLetters
  rw [h, List.isEmpty_nil, if_pos rfl, List.filterMap_map, List.filterMap_congr hget,
    List.filterMap_some]

/-- One column of some letters denotes a series for each letter that has a source. -/
theorem flatMap_series_letters (letters : List Char) (column : Nat) :
    (letters.map fun letter => (⟨some letter, some column⟩ : Item)).flatMap (·.series set) =
      (letters.filterMap set.get?).map fun source => ⟨source, column⟩ := by
  induction letters with
  | nil => rfl
  | cons letter rest ih =>
    rw [List.map_cons, List.flatMap_cons, ih]
    cases hget : set.get? letter with
    | none => simp [Item.series, hget]
    | some source => simp [Item.series, hget]

/-- Between the first value column and the least of the last ones, the uniform form draws
one series for each source, in the order of the letters. -/
theorem series_uniform (hset : SourceSet.ofSources given = .ok set) (s : Selection)
    {column : Nat} (hfirst : firstValueColumn ≤ column)
    (hlast : column ≤ leastLastColumn (s.steppedSources set)) :
    (uniform s.letters column).series set =
      (s.steppedSources set).map fun source => ⟨source, column⟩ := by
  refine series_eq_of_flatMap_eq ?_ ?_ ?_
  · -- The bare column is an item of its own, but it denotes a series for each source too.
    show (uniform s.letters column).items.flatMap (·.series set) = _
    unfold uniform
    by_cases hletters : s.letters = []
    · rw [if_pos hletters, steppedSources_of_letters_eq_nil hset hletters, List.flatMap_singleton]
      rfl
    · rw [if_neg hletters, flatMap_series_letters, steppedSources, steppedLetters,
        if_neg (by simpa using hletters)]
  · intro drawn hdrawn
    obtain ⟨source, hsource, rfl⟩ := List.mem_map.mp hdrawn
    exact Source.mayHave_of_le_leastLastColumn hsource hfirst hlast
  · refine List.pairwise_map.mpr ((pairwise_steppedSources hset s).imp ?_)
    intro a b hne
    simp [Series.same, hne.symm]

/-! ### Steps -/

/-- What the user is told by a step: the letters that have no source. -/
def missingLetters (s : Selection) (set : SourceSet) : List Notice :=
  ((s.steppedLetters set).filter fun letter => (set.get? letter).isNone).map .noSuchSource

/-- Which letters are missing depends on the letters of the selection alone. -/
theorem missingLetters_congr {s t : Selection} (h : s.letters = t.letters) :
    s.missingLetters set = t.missingLetters set := by
  unfold missingLetters steppedLetters
  rw [h]

/-- If there is nothing to step through, the selection stays. -/
theorem step_of_steppedSources_eq_nil {s : Selection} (h : s.steppedSources set = [])
    (forward : Bool) :
    s.step set forward = (s, s.missingLetters set ++ [.noFileExists]) := by
  unfold steppedSources at h
  simp only [step, h]
  rfl

/-- Otherwise the selection takes the uniform form, at the column next to the first one that
it names. -/
theorem step_of_steppedSources_ne_nil {s : Selection} (h : s.steppedSources set ≠ [])
    (forward : Bool) :
    s.step set forward =
      (uniform s.letters (clampedStep (leastLastColumn (s.steppedSources set))
        (s.firstColumn?.getD firstValueColumn) forward), s.missingLetters set) := by
  rw [← commonLastColumn_eq, ← atColumn_eq_uniform]
  cases hsources : s.steppedSources set with
  | nil => contradiction
  | cons first rest =>
    unfold steppedSources at hsources
    simp only [step, hsources]
    rfl

/-- A step keeps the letters. -/
theorem letters_step (s : Selection) (set : SourceSet) (forward : Bool) :
    (s.step set forward).1.letters = s.letters := by
  unfold step
  dsimp only
  split
  · rfl
  · rw [atColumn_eq_uniform, letters_uniform s.nodup_letters]

/-- The selection after some steps. -/
def afterSteps (s : Selection) (set : SourceSet) (steps : List Bool) : Selection :=
  steps.foldl (fun s forward => (s.step set forward).1) s

/-- The first step comes first. -/
theorem afterSteps_cons (s : Selection) (set : SourceSet) (forward : Bool) (rest : List Bool) :
    s.afterSteps set (forward :: rest) = (s.step set forward).1.afterSteps set rest := rfl

/-- No number of steps changes the letters. -/
theorem letters_afterSteps (s : Selection) (set : SourceSet) (steps : List Bool) :
    (s.afterSteps set steps).letters = s.letters := by
  induction steps generalizing s with
  | nil => rfl
  | cons forward rest ih => rw [afterSteps_cons, ih, letters_step]

/-- If there is nothing to step through, no number of steps changes the selection. -/
theorem afterSteps_of_steppedSources_eq_nil {s : Selection} (h : s.steppedSources set = [])
    (steps : List Bool) : s.afterSteps set steps = s := by
  induction steps with
  | nil => rfl
  | cons forward rest ih => rw [afterSteps_cons, step_of_steppedSources_eq_nil h, ih]

/-- From the uniform form on, steps move the column alone. -/
theorem afterSteps_uniform {s : Selection} (h : s.steppedSources set ≠ []) (column : Nat)
    (steps : List Bool) :
    (uniform s.letters column).afterSteps set steps =
      uniform s.letters
        (steps.foldl (clampedStep (leastLastColumn (s.steppedSources set))) column) := by
  induction steps generalizing column with
  | nil => rfl
  | cons forward rest ih =>
    have hletters : (uniform s.letters column).letters = s.letters :=
      letters_uniform s.nodup_letters column
    -- The letters are the same, so the step is about the same sources and has the same limit.
    have hsources : (uniform s.letters column).steppedSources set = s.steppedSources set :=
      steppedSources_congr hletters
    rw [afterSteps_cons, step_of_steppedSources_ne_nil (by rwa [hsources]), hletters,
      hsources, firstColumn?_uniform]
    exact ih _

/-- The first step brings any selection into the uniform form. -/
theorem afterSteps_of_steppedSources_ne_nil {s : Selection} (h : s.steppedSources set ≠ [])
    {steps : List Bool} (hsteps : steps ≠ []) :
    s.afterSteps set steps =
      uniform s.letters (steps.foldl (clampedStep (leastLastColumn (s.steppedSources set)))
        (s.firstColumn?.getD firstValueColumn)) := by
  cases steps with
  | nil => contradiction
  | cons forward rest =>
    rw [afterSteps_cons, List.foldl_cons, step_of_steppedSources_ne_nil h]
    exact afterSteps_uniform h _ rest

end Selection

/-! ### States -/

/-- The command of the word `vn`, and of `vp` if not `forward`. -/
def Command.columnStep (forward : Bool) : Command :=
  { selection := some (if forward then .next else .previous) }

namespace Config

variable (c : Config) (set : SourceSet)

/-- The state after some column steps. -/
def afterColumnSteps (steps : List Bool) : Config :=
  steps.foldl (fun c forward => (c.update set (.columnStep forward)).config) c

/-- The command of a step steps the selection, tells what that step tells, and leaves all else but
what is due. -/
theorem update_columnStep (forward : Bool) :
    (c.update set (.columnStep forward)).notices = (c.selection.step set forward).2 ∧
      (c.update set (.columnStep forward)).config = { c with
        selection := (c.selection.step set forward).1
        titleDue := (c.update set (.columnStep forward)).config.titleDue
        ticksDue := (c.update set (.columnStep forward)).config.ticksDue } := by
  have hchange : c.selection.change set (if forward then .next else .previous) =
      c.selection.step set forward := by
    cases forward <;> rfl
  constructor
  · rw [notices_update]
    simp [noticesBeforeTimes, Command.columnStep, Window.change_nil, hchange]
  · rw [update_config, ← hchange]
    rfl

/-- The commands step the selection as the steps by themselves do. -/
theorem selection_afterColumnSteps (steps : List Bool) :
    (c.afterColumnSteps set steps).selection = c.selection.afterSteps set steps := by
  induction steps generalizing c with
  | nil => rfl
  | cons forward rest ih =>
    rw [afterColumnSteps, List.foldl_cons, ← afterColumnSteps, ih, (c.update_columnStep set _).2]
    rfl

/-- Column steps change the selection, and what is due with it. -/
theorem afterColumnSteps_eq (steps : List Bool) :
    c.afterColumnSteps set steps = { c with
      selection := (c.afterColumnSteps set steps).selection
      titleDue := (c.afterColumnSteps set steps).titleDue
      ticksDue := (c.afterColumnSteps set steps).ticksDue } := by
  induction steps generalizing c with
  | nil => rfl
  | cons forward rest ih =>
    have hrest := ih (c.update set (.columnStep forward)).config
    rw [(c.update_columnStep set forward).2] at hrest
    rw [afterColumnSteps, List.foldl_cons, ← afterColumnSteps, (c.update_columnStep set _).2]
    exact hrest

/-- Column steps are about the letters of the selection, or about those of all sources if it
has none. The user is told which of them have no source. If none has one the user is told so
too, and the selection stays.

Otherwise every step leads to the uniform form of the same letters. Its column starts from the
first one that the selection names and never leaves the columns that all sources with a header
have, of which there is at least one. So each of the sources is drawn, once and in the order
of the letters. From a uniform selection a step can be taken back unless it is stopped. -/
theorem column_steps_clamp {given : List Source} {set : SourceSet}
    (hset : SourceSet.ofSources given = .ok set)
    (hcolumns : ∀ source ∈ set.sources, source.names.length < columnLimit) (c : Config)
    (steps : List Bool) :
    let letters := if c.selection.letters.isEmpty then set.sources.map (·.letter)
      else c.selection.letters
    let missing := (letters.filter fun letter => (set.get? letter).isNone).map
      Notice.noSuchSource
    let sources := letters.filterMap set.get?
    let last := leastLastColumn sources
    let first := c.selection.firstColumn?.getD firstValueColumn
    let after := c.afterColumnSteps set steps
    after = { c with
      selection := after.selection, titleDue := after.titleDue, ticksDue := after.ticksDue } ∧
    (sources = [] → after.selection = c.selection ∧
      ∀ forward, (after.update set (.columnStep forward)).notices = missing ++ [.noFileExists]) ∧
    (sources ≠ [] → firstValueColumn ≤ last ∧
      (∀ forward, (after.update set (.columnStep forward)).notices = missing) ∧
      (steps ≠ [] →
        let column := steps.foldl (clampedStep last) first
        firstValueColumn ≤ column ∧ column ≤ last ∧
        after.selection = .uniform c.selection.letters column ∧
        ∃ p, Plot.ofConfig? after set = some p ∧
          p.draw = after.drawDirective set (sources.map fun source => ⟨source, column⟩)) ∧
      (c.selection = .uniform c.selection.letters first →
        (firstValueColumn ≤ first → first < last →
          (c.afterColumnSteps set [true, false]).selection = c.selection) ∧
        (firstValueColumn < first → first ≤ last →
          (c.afterColumnSteps set [false, true]).selection = c.selection))) := by
  intro letters missing sources last first after
  have hselection : after.selection = _ := c.selection_afterColumnSteps set steps
  -- Neither the sources nor the missing letters are others after some steps.
  have hletters : after.selection.letters = c.selection.letters := by
    rw [hselection, Selection.letters_afterSteps]
  have hmissing : after.selection.missingLetters set = missing :=
    Selection.missingLetters_congr hletters
  have hsources : after.selection.steppedSources set = sources :=
    Selection.steppedSources_congr hletters
  refine ⟨c.afterColumnSteps_eq set steps, fun hnone => ⟨?_, ?_⟩, fun hsome => ?_⟩
  · rw [hselection, Selection.afterSteps_of_steppedSources_eq_nil hnone]
  · intro forward
    rw [(after.update_columnStep set forward).1,
      Selection.step_of_steppedSources_eq_nil (hsources.trans hnone), hmissing]
  have hlast : firstValueColumn ≤ last := by
    refine Nat.le_of_not_lt fun hless => ?_
    obtain ⟨source, hsource, hlength⟩ := leastLastColumn_lt_firstValueColumn_iff.mp hless
    exact Nat.ne_of_lt (hcolumns source (Selection.mem_sources_of_mem_steppedSources hsource))
      hlength
  have huniform : ∀ {steps : List Bool}, steps ≠ [] →
      (c.afterColumnSteps set steps).selection =
        .uniform c.selection.letters (steps.foldl (clampedStep last) first) := by
    intro steps hsteps
    rw [selection_afterColumnSteps]
    exact Selection.afterSteps_of_steppedSources_ne_nil hsome hsteps
  refine ⟨hlast, ?_, ?_, fun hbefore => ⟨?_, ?_⟩⟩
  · intro forward
    rw [(after.update_columnStep set forward).1,
      Selection.step_of_steppedSources_ne_nil (by rwa [hsources]), hmissing]
  · -- The column after a step is one that all of the sources can have.
    intro hsteps column
    obtain ⟨hfirst, hlast⟩ : firstValueColumn ≤ column ∧ column ≤ last :=
      foldl_clampedStep_bounds hlast hsteps
    have hseries : after.selection.series set = sources.map fun source => ⟨source, column⟩ := by
      rw [huniform hsteps]
      exact Selection.series_uniform hset c.selection hfirst hlast
    have hdrawn : after.selection.series set ≠ [] := by
      rw [hseries]
      simpa using hsome
    refine ⟨hfirst, hlast, huniform hsteps, _,
      (Plot.ofConfig?_eq after set).trans (if_neg hdrawn), ?_⟩
    rw [hseries]
  · intro hfirst hlast
    have hback : [true, false].foldl (clampedStep last) first = first :=
      clampedStep_backward_forward hfirst hlast
    rw [huniform (List.cons_ne_nil _ _), hback]
    exact hbefore.symm
  · intro hfirst hlast
    have hback : [false, true].foldl (clampedStep last) first = first :=
      clampedStep_forward_backward hfirst hlast
    rw [huniform (List.cons_ne_nil _ _), hback]
    exact hbefore.symm

/-- The second column of the file `a`, and a file that there is not. Of two steps on the
second one is stopped, since the file `a` has three columns, and a step back leads to the
second column again. -/
theorem column_steps_clamp_of_two_on_one_back :
    let c := pairOfFiles.config [⟨some 'a', some 2⟩, ⟨some 'q', none⟩]
    let after := c.afterColumnSteps pairOfFiles [true, true, false]
    Line.parse "vn" = .command (.columnStep true) ∧
      Line.parse "vp" = .command (.columnStep false) ∧
      SourceSet.ofSources pairOfFiles.sources = .ok pairOfFiles ∧
      (∀ source ∈ pairOfFiles.sources, source.names.length < columnLimit) ∧
      (after.update pairOfFiles (.columnStep true)).notices = [.noSuchSource 'q'] ∧
      after.selection = ⟨[⟨some 'a', some 2⟩, ⟨some 'q', some 2⟩]⟩ ∧
      ∃ p, Plot.ofConfig? after pairOfFiles = some p := by
  intro c after
  have hcolumns : ∀ source ∈ pairOfFiles.sources, source.names.length < columnLimit := by decide
  obtain ⟨-, -, hsome⟩ :=
    column_steps_clamp ofSources_pairOfFiles hcolumns c [true, true, false]
  obtain ⟨-, hmissing, hsteps, -⟩ := hsome (by decide)
  obtain ⟨-, -, hselection, p, hplot, -⟩ := hsteps (by decide)
  exact ⟨by decide +kernel, by decide +kernel, ofSources_pairOfFiles, hcolumns,
    (hmissing true).trans (by decide), hselection.trans (by decide), p, hplot⟩

end Config

end SeriesPlot
