import Mathlib.Data.List.Sort
import SeriesPlot.Proofs.Directive.Expansion
import SeriesPlot.Proofs.Update.Columns

/-!
# `SeriesPlot.Proofs.Update.Unselected`: sources that are not selected

A selection of which every item names a source (`Selection.NamesSources`) reads a set of sources
by looking up its letters, or comes to the same as if it did. The items look their letters up,
and so do the column steps. The title and the tags of the legends go through the whole set
instead. What they find is in the order of the letters, and it is what the letters of the
selection find (`Selection.NamesSources.mem_activeSources_iff`). So two sets that agree on these
letters are the same to a plot and to any number of column steps
(`Config.unselected_sources_unobserved`).

* `Selection.NamesSources.series_congr`, `Selection.NamesSources.activeSources_congr`: the two lists
  that a plot is made of are the same for both sets.
* `Selection.NamesSources.step_congr`: so is a step of the selection, with what the user is told.
* `Config.afterColumnSteps_congr`: the run lemma. A step keeps the letters, so the two sets agree on
  them all the way.
-/

set_option autoImplicit false

namespace SeriesPlot

open SeriesPlot.Proofs.Support

/-- Two sets have the same source for each of some letters, or both of them none. -/
def SourceSet.AgreeOn (letters : List Char) (set set' : SourceSet) : Prop :=
  ∀ letter ∈ letters, set.get? letter = set'.get? letter

namespace Selection

variable {given given' : List Source} {set set' : SourceSet} {s : Selection}

/-- The letters of a selection are those that its items name. -/
theorem mem_letters_iff {letter : Char} :
    letter ∈ s.letters ↔ ∃ item ∈ s.items, item.source = some letter := by
  simp [letters]

/-- There are items, and each of them names a source. -/
structure NamesSources (s : Selection) : Prop where
  ne_nil : s.items ≠ []
  exists_source : ∀ item ∈ s.items, ∃ letter, item.source = some letter

namespace NamesSources

/-- A selection that names sources has letters. -/
theorem letters_ne_nil (h : s.NamesSources) : s.letters ≠ [] := by
  obtain ⟨item, hitem⟩ := List.exists_mem_of_ne_nil _ h.ne_nil
  obtain ⟨letter, hletter⟩ := h.exists_source item hitem
  exact List.ne_nil_of_mem (mem_letters_iff.mpr ⟨item, hitem, hletter⟩)

/-- A selection that names sources is stepped by its own letters, whatever the set holds. -/
theorem steppedLetters_eq (h : s.NamesSources) (set : SourceSet) :
    s.steppedLetters set = s.letters := by
  simp [steppedLetters, h.letters_ne_nil]

/-- The active sources are those that the letters of the selection find. -/
theorem mem_activeSources_iff (h : s.NamesSources) (hset : SourceSet.ofSources given = .ok set)
    {source : Source} :
    source ∈ s.activeSources set ↔ ∃ letter ∈ s.letters, set.get? letter = some source := by
  rw [Selection.mem_activeSources_iff]
  constructor
  · rintro ⟨hsource, item, hitem, hmentions⟩
    obtain ⟨letter, hletter⟩ := h.exists_source item hitem
    -- The item has a letter, so it cannot mention the source along with all others.
    have hown : item.source = some source.letter := by
      rcases hmentions with hnone | hown
      · rw [hletter] at hnone
        cases hnone
      · exact hown
    exact ⟨source.letter, mem_letters_iff.mpr ⟨item, hitem, hown⟩,
      (SourceSet.get?_eq_some_iff hset).mpr ⟨hsource, rfl⟩⟩
  · rintro ⟨letter, hletter, hget⟩
    obtain ⟨hsource, rfl⟩ := (SourceSet.get?_eq_some_iff hset).mp hget
    obtain ⟨item, hitem, hown⟩ := mem_letters_iff.mp hletter
    exact ⟨hsource, item, hitem, .inr hown⟩

/-- The order in which a set is gone through is that of the letters, so it cannot tell sets
apart that have the same sources to be found. -/
theorem activeSources_congr (h : s.NamesSources) (hset : SourceSet.ofSources given = .ok set)
    (hset' : SourceSet.ofSources given' = .ok set') (hagree : set.AgreeOn s.letters set') :
    s.activeSources set = s.activeSources set' := by
  have hirrefl : Std.Irrefl fun a b : Source => a.letter < b.letter :=
    ⟨fun a => Char.lt_irrefl a.letter⟩
  have hantisymm : Std.Antisymm fun a b : Source => a.letter < b.letter :=
    ⟨fun a b hab hba => absurd (Char.lt_trans hab hba) (Char.lt_irrefl a.letter)⟩
  have hordered : (s.activeSources set).Pairwise fun a b => a.letter < b.letter :=
    (SourceSet.pairwise_letter_lt hset).filter _
  have hordered' : (s.activeSources set').Pairwise fun a b => a.letter < b.letter :=
    (SourceSet.pairwise_letter_lt hset').filter _
  -- Lists in strict order are equal if they have the same members.
  refine hordered.eq_of_mem_iff hordered' fun source => ?_
  rw [h.mem_activeSources_iff hset, h.mem_activeSources_iff hset']
  constructor
  · rintro ⟨letter, hletter, hget⟩
    exact ⟨letter, hletter, (hagree letter hletter).symm.trans hget⟩
  · rintro ⟨letter, hletter, hget⟩
    exact ⟨letter, hletter, (hagree letter hletter).trans hget⟩

/-- An item with a letter denotes what is found for the letter. -/
theorem series_item_congr (h : s.NamesSources) (hagree : set.AgreeOn s.letters set')
    {item : Item} (hitem : item ∈ s.items) : item.series set = item.series set' := by
  obtain ⟨letter, hletter⟩ := h.exists_source item hitem
  have hget := hagree letter (mem_letters_iff.mpr ⟨item, hitem, hletter⟩)
  obtain ⟨source?, column?⟩ := item
  cases hletter
  cases column? with
  | none => simp [Item.series, hget]
  | some column => simp [Item.series, hget]

/-- Sets that agree on the letters of a selection give the same series. -/
theorem series_congr (h : s.NamesSources) (hagree : set.AgreeOn s.letters set') :
    s.series set = s.series set' := by
  have hitems : s.items.flatMap (·.series set) = s.items.flatMap (·.series set') :=
    List.flatMap_congr fun item hitem => h.series_item_congr hagree hitem
  unfold series
  rw [hitems]

/-- A column step looks up the letters, for the columns as well as for what the user is told. -/
theorem step_congr (h : s.NamesSources) (hagree : set.AgreeOn s.letters set') (forward : Bool) :
    s.step set forward = s.step set' forward := by
  have hsources : s.letters.filterMap set.get? = s.letters.filterMap set'.get? :=
    List.filterMap_congr hagree
  have hmissing : (s.letters.filter fun letter => (set.get? letter).isNone) =
      s.letters.filter fun letter => (set'.get? letter).isNone :=
    List.filter_congr fun letter hletter => by rw [hagree letter hletter]
  unfold step
  simp only [h.steppedLetters_eq, hsources, hmissing]

/-- After a column step every item still names a source. -/
theorem step (h : s.NamesSources) (set : SourceSet) (forward : Bool) :
    (s.step set forward).1.NamesSources := by
  unfold Selection.step
  dsimp only
  split
  · exact h
  · rw [atColumn_eq_uniform, uniform, if_neg h.letters_ne_nil]
    constructor
    · simpa using h.letters_ne_nil
    · intro item hitem
      obtain ⟨letter, -, rfl⟩ := List.mem_map.mp hitem
      exact ⟨letter, rfl⟩

end NamesSources

end Selection

variable {given given' : List Source} {set set' : SourceSet} {c : Config}

/-- Sets that agree on the letters of a selection give the same plot, or none. -/
theorem Plot.ofConfig?_congr_of_agreeOn (h : c.selection.NamesSources)
    (hset : SourceSet.ofSources given = .ok set) (hset' : SourceSet.ofSources given' = .ok set')
    (hagree : set.AgreeOn c.selection.letters set') : ofConfig? c set = ofConfig? c set' :=
  ofConfig?_congr (h.series_congr hagree) (h.activeSources_congr hset hset' hagree)

namespace Config

/-- A column step is a step of the selection. What else it does depends on no source. -/
theorem update_columnStep_congr (h : c.selection.NamesSources)
    (hagree : set.AgreeOn c.selection.letters set') (forward : Bool) :
    c.update set (.columnStep forward) = c.update set' (.columnStep forward) := by
  have hchange : ∀ set, c.selection.change set (if forward then .next else .previous) =
      c.selection.step set forward := by
    intro set
    cases forward <;> rfl
  unfold update Command.columnStep
  dsimp only
  rw [hchange, hchange, h.step_congr hagree]

/-- The run lemma: steps keep the letters of the selection, so the two sets agree on them all
the way. -/
theorem afterColumnSteps_congr (h : c.selection.NamesSources)
    (hagree : set.AgreeOn c.selection.letters set') (steps : List Bool) :
    c.afterColumnSteps set steps = c.afterColumnSteps set' steps ∧
      (c.afterColumnSteps set steps).selection.NamesSources := by
  induction steps generalizing c with
  | nil => exact ⟨rfl, h⟩
  | cons forward rest ih =>
    have hselection : (c.update set (.columnStep forward)).config.selection =
        (c.selection.step set forward).1 := by
      rw [(c.update_columnStep set forward).2]
    have hnames : (c.update set (.columnStep forward)).config.selection.NamesSources := by
      rw [hselection]
      exact h.step set forward
    have hletters : (c.update set (.columnStep forward)).config.selection.letters =
        c.selection.letters := by
      rw [hselection, Selection.letters_step]
    obtain ⟨hsame, hafter⟩ := ih hnames (hletters ▸ hagree)
    refine ⟨?_, hafter⟩
    show (c.update set (.columnStep forward)).config.afterColumnSteps set rest =
      (c.update set' (.columnStep forward)).config.afterColumnSteps set' rest
    -- After the first step the two states are one, and the rest is about that.
    rw [← update_columnStep_congr h hagree]
    exact hsame

/-- If every item of a selection names a source, no other source is observed. Two sets that
have the same source, or none, for each letter of the selection give the same plot or none,
whatever is due. A column step does the same with the state and tells the user the same. So
it is after any number of column steps. -/
theorem unselected_sources_unobserved (hset : SourceSet.ofSources given = .ok set)
    (hset' : SourceSet.ofSources given' = .ok set') (hsome : c.selection.items ≠ [])
    (hletters : ∀ item ∈ c.selection.items, item.source ≠ none)
    (hagree : ∀ letter ∈ c.selection.letters, set.get? letter = set'.get? letter) :
    Plot.ofConfig? c set = Plot.ofConfig? c set' ∧
      (∀ forward, c.update set (.columnStep forward) = c.update set' (.columnStep forward)) ∧
      ∀ steps, c.afterColumnSteps set steps = c.afterColumnSteps set' steps ∧
        Plot.ofConfig? (c.afterColumnSteps set steps) set =
          Plot.ofConfig? (c.afterColumnSteps set' steps) set' := by
  have hnames : c.selection.NamesSources :=
    ⟨hsome, fun item hitem => Option.ne_none_iff_exists'.mp (hletters item hitem)⟩
  refine ⟨Plot.ofConfig?_congr_of_agreeOn hnames hset hset' hagree,
    update_columnStep_congr hnames hagree, fun steps => ?_⟩
  obtain ⟨hsame, hafter⟩ := afterColumnSteps_congr hnames hagree steps
  have hstepped : (c.afterColumnSteps set steps).selection.letters = c.selection.letters := by
    rw [selection_afterColumnSteps, Selection.letters_afterSteps]
  refine ⟨hsame, ?_⟩
  rw [← hsame]
  exact Plot.ofConfig?_congr_of_agreeOn hafter hset hset' (hstepped ▸ hagree)

/-- All columns of the file `b`, and a file that there is not. One set has a file after the
file `b`, and before it one with another label and without a header. -/
theorem unselected_sources_unobserved_of_three_files :
    let first := { pairOfFiles.sources[0] with names := [], label := "x.csv" }
    let third := { pairOfFiles.sources[0] with letter := 'c', label := "c.csv" }
    let set := { pairOfFiles with sources := [first, pairOfFiles.sources[1], third] }
    let c := pairOfFiles.config [⟨some 'b', none⟩, ⟨some 'q', some 3⟩]
    SourceSet.ofSources pairOfFiles.sources = .ok pairOfFiles ∧
      SourceSet.ofSources set.sources = .ok set ∧ c.selection.items ≠ [] ∧
      (∀ item ∈ c.selection.items, item.source ≠ none) ∧
      (∀ letter ∈ c.selection.letters, pairOfFiles.get? letter = set.get? letter) ∧
      Line.parse "vn" = .command (.columnStep true) ∧
      Line.parse "vp" = .command (.columnStep false) ∧
      (∃ p, Plot.ofConfig? c pairOfFiles = some p ∧ Plot.ofConfig? c set = some p ∧
        p.title = some "set title \"b.csv\"") ∧
      (c.update set (.columnStep true)).notices = [.noSuchSource 'q'] := by
  intro first third set c
  have hset : SourceSet.ofSources set.sources = .ok set := rfl
  have hsome : c.selection.items ≠ [] := by decide
  have hletters : ∀ item ∈ c.selection.items, item.source ≠ none := by decide
  have hagree : ∀ letter ∈ c.selection.letters, pairOfFiles.get? letter = set.get? letter := by
    have hnamed : c.selection.letters = ['b', 'q'] := by decide
    rw [hnamed]
    exact List.forall_mem_cons.mpr ⟨by decide, List.forall_mem_singleton.mpr (by decide)⟩
  have hplot := (Plot.ofConfig?_eq c pairOfFiles).trans (if_neg (by decide))
  obtain ⟨hsame, hstep, -⟩ :=
    unselected_sources_unobserved ofSources_pairOfFiles hset hsome hletters hagree
  refine ⟨ofSources_pairOfFiles, hset, hsome, hletters, hagree, by decide +kernel,
    by decide +kernel, ⟨_, hplot, hsame.symm.trans hplot, by decide⟩, ?_⟩
  -- What a step tells is the same for both sets, and it is told from the first.
  rw [← hstep, (c.update_columnStep pairOfFiles true).1]
  decide

end Config

end SeriesPlot
