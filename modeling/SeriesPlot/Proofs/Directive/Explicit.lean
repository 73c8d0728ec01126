import SeriesPlot.Proofs.Directive.Title

/-!
# `SeriesPlot.Proofs.Directive.Explicit`: bare items are short for explicit ones

A bare column stands for that column of every source, and a bare letter for all columns of
its source. `Selection.explicit` writes both out, item by item and in place.

* `Item.flatMap_series_explicit`: the written-out items denote the same series in the same
  order, so the selection draws the same (`series_explicit`).
* `Item.exists_mentions_explicit_iff`: they ask for columns of the same sources, so the same
  sources are active (`activeSources_explicit`). The derived title and the tags of the
  legends depend on nothing else.
* `Plot.ofConfig?_explicit`: the plot is the same, whatever is due and whether or not there
  is one.

Duplicates are left out twice, once of the items and once of the series. Leaving them out of the
items first makes no difference to the series. A letter without a source is short for nothing and
stays as it is, so that it still says that the source is asked for.
-/

set_option autoImplicit false

namespace SeriesPlot

open SeriesPlot.Proofs.Support

namespace Selection

/-- The items, with a letter and a column each, that an item is short for. A letter without
a source or of a source without value columns is short for none and stays as it is. -/
def Item.explicit (item : Item) (set : SourceSet) : List Item :=
  match item.source, item.column with
  | none, some column => set.sources.map fun source => ⟨some source.letter, some column⟩
  | some letter, none =>
    match set.get? letter with
    | some source =>
      if source.columns.isEmpty then [item]
      else source.columns.map fun column => ⟨some letter, some column⟩
    | none => [item]
  | _, _ => [item]

/-- The selection with its bare items written out. -/
def explicit (s : Selection) (set : SourceSet) : Selection :=
  ofItems (s.items.flatMap (·.explicit set))

/-- An item that is short for others: a bare column, or the bare letter of a source with
value columns. -/
def Item.IsShort (item : Item) (set : SourceSet) : Prop :=
  match item.source, item.column with
  | none, some _ => True
  | some letter, none => ∃ source, set.get? letter = some source ∧ source.columns ≠ []
  | _, _ => False

variable {given : List Source} {set : SourceSet}

/-! ### One item -/

/-- An item that is not short for others stays. Of the two that are, a bare column becomes
one item for each source, and a bare letter one for each column. -/
theorem Item.explicit_cases (item : Item) (set : SourceSet) :
    (item.explicit set = [item] ∧ ¬item.IsShort set) ∨
    (∃ column, item = ⟨none, some column⟩ ∧
      item.explicit set = set.sources.map fun source => ⟨some source.letter, some column⟩) ∨
    ∃ letter source, item = ⟨some letter, none⟩ ∧ set.get? letter = some source ∧
      source.columns ≠ [] ∧
      item.explicit set = source.columns.map fun column => ⟨some letter, some column⟩ := by
  obtain ⟨letter?, column?⟩ := item
  cases letter? with
  | none =>
    cases column? with
    | none => exact .inl ⟨rfl, id⟩
    | some column => exact .inr (.inl ⟨column, rfl, rfl⟩)
  | some letter =>
    cases column? with
    | some column => exact .inl ⟨rfl, id⟩
    | none =>
      -- A bare letter is short only for a source that there is and that has columns by name.
      cases hget : set.get? letter with
      | none => simp [explicit, IsShort, hget]
      | some source =>
        by_cases hcolumns : source.columns = []
        · simp [explicit, IsShort, hget, hcolumns]
        · exact .inr (.inr
            ⟨letter, source, rfl, hget, hcolumns, by simp [explicit, hget, hcolumns]⟩)

/-- If each element stands for one thing, nothing is gained or lost by flattening. -/
private theorem flatMap_map_eq_map {α β γ : Type} {f : α → β} {g : β → List γ} {h : α → γ}
    {l : List α} (hsingle : ∀ a ∈ l, g (f a) = [h a]) : (l.map f).flatMap g = l.map h := by
  induction l with
  | nil => rfl
  | cons a l ih =>
    rw [List.map_cons, List.flatMap_cons, hsingle a List.mem_cons_self,
      ih fun b hb => hsingle b (List.mem_cons_of_mem a hb)]
    rfl

/-- A letter with a source and a column denote one series. -/
theorem Item.series_of_get? {letter : Char} {source : Source}
    (hget : set.get? letter = some source) (column : Nat) :
    Item.series ⟨some letter, some column⟩ set = [⟨source, column⟩] := by
  simp [Item.series, hget]

/-- Written out or not, an item denotes the same series in the same order. -/
theorem Item.flatMap_series_explicit (hset : SourceSet.ofSources given = .ok set) (item : Item) :
    (item.explicit set).flatMap (·.series set) = item.series set := by
  rcases item.explicit_cases set with ⟨heq, -⟩ | ⟨column, rfl, heq⟩ |
    ⟨letter, source, rfl, hget, -, heq⟩
  · rw [heq]
    exact List.flatMap_singleton _ _
  · rw [heq]
    -- The letters written out are those of the set, so each is found again.
    exact flatMap_map_eq_map fun source hsource =>
      series_of_get? ((SourceSet.get?_eq_some_iff hset).mpr ⟨hsource, rfl⟩) column
  · rw [heq, flatMap_map_eq_map fun column _ => series_of_get? hget column]
    simp [Item.series, hget]

/-- Written out or not, an item asks for columns of the same sources. -/
theorem Item.exists_mentions_explicit_iff (item : Item) {source : Source}
    (hsource : source ∈ set.sources) :
    (∃ written ∈ item.explicit set, written.Mentions source) ↔ item.Mentions source := by
  rcases item.explicit_cases set with ⟨heq, -⟩ | ⟨column, rfl, heq⟩ |
    ⟨letter, named, rfl, -, hcolumns, heq⟩
  · rw [heq]
    simp
  · rw [heq]
    exact iff_of_true ⟨_, List.mem_map_of_mem hsource, .inr rfl⟩ (.inl rfl)
  · -- All columns written out are of the one letter, and there are some.
    rw [heq]
    constructor
    · rintro ⟨written, hwritten, hmentions⟩
      obtain ⟨column, -, rfl⟩ := List.mem_map.mp hwritten
      exact hmentions
    · intro hmentions
      obtain ⟨column, hcolumn⟩ := List.exists_mem_of_ne_nil _ hcolumns
      exact ⟨_, List.mem_map_of_mem hcolumn, hmentions⟩

/-- What is written out is not short for anything else. -/
theorem Item.not_isShort_of_mem_explicit {item written : Item}
    (h : written ∈ item.explicit set) : ¬written.IsShort set := by
  rcases item.explicit_cases set with ⟨heq, hshort⟩ | ⟨column, rfl, heq⟩ |
    ⟨letter, named, rfl, -, -, heq⟩ <;> rw [heq] at h
  · obtain rfl := List.mem_singleton.mp h
    exact hshort
  · obtain ⟨source, -, rfl⟩ := List.mem_map.mp h
    exact id
  · obtain ⟨column, -, rfl⟩ := List.mem_map.mp h
    exact id

/-! ### Whole selections -/

/-- Repetitions that arise from writing out are erased as items and as series, which is no
different from erasing them as series only. -/
theorem series_explicit (hset : SourceSet.ofSources given = .ok set) (s : Selection) :
    (s.explicit set).series set = s.series set := by
  have hsame : ∀ drawn : Series, drawn.same drawn = true := by simp [Series.same]
  unfold series explicit ofItems
  rw [List.filter_flatMap, eraseDupsBy_flatMap_eraseDups hsame, ← List.filter_flatMap,
    List.flatMap_assoc]
  simp only [Item.flatMap_series_explicit hset]

/-- The items of the explicit selection are those that its short forms stand for. -/
theorem mem_items_explicit {s : Selection} {item : Item} :
    item ∈ (s.explicit set).items ↔ ∃ short ∈ s.items, item ∈ short.explicit set := by
  unfold explicit ofItems
  rw [List.mem_eraseDups, List.mem_flatMap]

/-- The sources that are asked for are those that the items mention, and writing these out
changes nothing about it. -/
theorem activeSources_explicit (s : Selection) :
    (s.explicit set).activeSources set = s.activeSources set := by
  -- The test of the model goes through letters; here it is about the items themselves.
  have hactive : ∀ (t : Selection) (source : Source), source ∈ set.sources →
      ((t.spansAllSources || t.letters.contains source.letter) = true ↔
        ∃ item ∈ t.items, item.Mentions source) := by
    intro t source hsource
    have hmem : source ∈ t.activeSources set ↔ _ := mem_activeSources_iff
    rw [activeSources, List.mem_filter] at hmem
    simpa [hsource] using hmem
  refine List.filter_congr fun source hsource => Bool.eq_iff_iff.mpr ?_
  rw [hactive _ source hsource, hactive _ source hsource]
  simp only [mem_items_explicit]
  constructor
  · rintro ⟨written, ⟨item, hitem, hwritten⟩, hmentions⟩
    exact ⟨item, hitem,
      (item.exists_mentions_explicit_iff hsource).mp ⟨written, hwritten, hmentions⟩⟩
  · rintro ⟨item, hitem, hmentions⟩
    obtain ⟨written, hwritten, hmentions⟩ :=
      (item.exists_mentions_explicit_iff hsource).mpr hmentions
    exact ⟨written, ⟨item, hitem, hwritten⟩, hmentions⟩

end Selection

/-- Bare items are short for explicit ones: with all of them written out the plot is the
same, with the same directives before it, the same series in the same order and the same
tags, and there is none for the same selections. After writing out, no item is short for
others any more. A bare letter is short for one column for each name, from 2 on, unless there
are as many names as column numbers. -/
theorem Plot.ofConfig?_explicit {given : List Source} {set : SourceSet}
    (hset : SourceSet.ofSources given = .ok set) (c : Config) :
    let written := { c with selection := c.selection.explicit set }
    ofConfig? written set = ofConfig? c set ∧
      written.titleDirective? set = c.titleDirective? set ∧
      written.ticksDirective = c.ticksDirective ∧
      written.selection.series set = c.selection.series set ∧
      written.selection.activeSources set = c.selection.activeSources set ∧
      (∀ item ∈ written.selection.items, ¬item.IsShort set) ∧
      ∀ source ∈ set.sources, source.names.length < columnLimit →
        source.columns = List.range' 2 source.names.length := by
  intro written
  have hseries := Selection.series_explicit hset c.selection
  have hactive : (c.selection.explicit set).activeSources set = c.selection.activeSources set :=
    Selection.activeSources_explicit c.selection
  refine ⟨ofConfig?_congr hseries hactive, Config.titleDirective?_congr hactive, rfl, hseries,
    hactive, fun item hitem => ?_, fun source _ => Source.columns_of_lt⟩
  obtain ⟨short, -, hitem⟩ := Selection.mem_items_explicit.mp hitem
  exact Selection.Item.not_isShort_of_mem_explicit hitem

/-- The second column of both files, all columns of the file `a`, of a file that there is
not, and a column that the file `b` does not have. -/
theorem Plot.ofConfig?_explicit_of_bare_items :
    let c := pairOfFiles.config
      [⟨none, some 2⟩, ⟨some 'a', none⟩, ⟨some 'd', none⟩, ⟨some 'b', some 9⟩]
    SourceSet.ofSources pairOfFiles.sources = .ok pairOfFiles ∧
      (c.selection.explicit pairOfFiles).items =
        [⟨some 'a', some 2⟩, ⟨some 'b', some 2⟩, ⟨some 'a', some 3⟩, ⟨some 'd', none⟩,
          ⟨some 'b', some 9⟩] ∧
      ∃ p, Plot.ofConfig? c pairOfFiles = some p ∧
        Plot.ofConfig? { c with selection := c.selection.explicit pairOfFiles } pairOfFiles =
          some p := by
  intro c
  have hplot := (Plot.ofConfig?_eq c pairOfFiles).trans (if_neg (by decide))
  obtain ⟨hsame, -⟩ := Plot.ofConfig?_explicit ofSources_pairOfFiles c
  exact ⟨ofSources_pairOfFiles, by decide, _, hplot, hsame.trans hplot⟩

end SeriesPlot
