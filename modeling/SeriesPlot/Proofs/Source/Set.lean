import SeriesPlot.Source.Set

/-!
# `SeriesPlot.Proofs.Source.Set`: sources and their letters

A set of sources gives each of them a letter of its own, in order.

* `SourceSet.sources_of_ofSources`: what becomes of the sources that a set is made of. Each of them
  keeps its place and everything but its letter (`SourceSet.exists_getElem?_sources`).
* `SourceSet.nodup_letters`: no letter is given out twice, as there are no more sources than
  letters.
* `SourceSet.get?_eq_some_iff`: so looking up a letter finds the one source that has it. Later
  modules use this in place of the search.
-/

set_option autoImplicit false

namespace SeriesPlot.SourceSet

variable {given : List Source} {set : SourceSet}

/-- A set holds the sources it is made of, lettered, of which there are no more than
letters. -/
theorem sources_of_ofSources (h : ofSources given = .ok set) :
    set.sources = lettered given ∧ given.length ≤ sourceLetters.length := by
  unfold ofSources at h
  split at h
  · cases h
  · dsimp only at h
    split at h
    · split at h
      · cases h
        exact ⟨rfl, Nat.le_of_not_lt ‹_›⟩
      · cases h
    · cases h

/-- The sources given are those of the set in the same places, but for their letters. -/
theorem exists_getElem?_sources (hset : ofSources given = .ok set) {s : Source} {i : Nat}
    (hgiven : given[i]? = some s) :
    ∃ letter, sourceLetters[i]? = some letter ∧ set.sources[i]? = some { s with letter } := by
  obtain ⟨hsources, hlength⟩ := sources_of_ofSources hset
  obtain ⟨hi, -⟩ := List.getElem?_eq_some_iff.mp hgiven
  have hletter : i < sourceLetters.length := Nat.lt_of_lt_of_le hi hlength
  refine ⟨sourceLetters[i], List.getElem?_eq_getElem hletter, ?_⟩
  rw [hsources, lettered, List.getElem?_zipWith, hgiven, List.getElem?_eq_getElem hletter]

/-- The letters are given out in order, as many as there are sources. -/
theorem map_letter_zipWith (given : List Source) (letters : List Char) :
    (List.zipWith (fun s letter => { s with letter }) given letters).map (·.letter) =
      letters.take given.length := by
  induction given generalizing letters with
  | nil => rfl
  | cons source rest ih =>
    cases letters with
    | nil => rfl
    | cons letter letters => simp [ih]

/-- The letters are given out in order. -/
theorem letters_of_ofSources (h : ofSources given = .ok set) :
    set.sources.map (·.letter) = sourceLetters.take given.length := by
  rw [(sources_of_ofSources h).1]
  exact map_letter_zipWith given sourceLetters

/-- No letter is given out twice. -/
theorem nodup_letters (h : ofSources given = .ok set) : (set.sources.map (·.letter)).Nodup := by
  rw [letters_of_ofSources h]
  exact List.Nodup.sublist (List.take_sublist _ _) (by decide)

/-- A source of a set has one of the letters and is otherwise as it was given. -/
theorem exists_given_of_mem_sources (h : ofSources given = .ok set) {source : Source}
    (hsource : source ∈ set.sources) :
    source.letter ∈ sourceLetters ∧ ∃ g ∈ given, source = { g with letter := source.letter } := by
  constructor
  · have hletter : source.letter ∈ set.sources.map (·.letter) := List.mem_map_of_mem hsource
    rw [letters_of_ofSources h] at hletter
    exact List.mem_of_mem_take hletter
  · rw [(sources_of_ofSources h).1, lettered] at hsource
    obtain ⟨n, hn, rfl⟩ := List.mem_iff_getElem.mp hsource
    rw [List.length_zipWith, Nat.lt_min] at hn
    rw [List.getElem_zipWith]
    exact ⟨given[n], List.getElem_mem hn.1, rfl⟩

/-- The letter of a source finds that source if no other has it. -/
theorem find?_letter {sources : List Source} (h : (sources.map (·.letter)).Nodup)
    {source : Source} (hsource : source ∈ sources) :
    sources.find? (·.letter == source.letter) = some source := by
  induction sources with
  | nil => exact nomatch hsource
  | cons first rest ih =>
    rw [List.map_cons, List.nodup_cons] at h
    rcases List.mem_cons.mp hsource with rfl | hrest
    · simp
    · have hne : first.letter ≠ source.letter := fun heq =>
        h.1 (heq ▸ List.mem_map_of_mem hrest)
      rw [List.find?_cons_of_neg (by simpa using hne)]
      exact ih h.2 hrest

/-- What is found for a letter is a source of the set with that letter. -/
theorem mem_of_get?_eq_some {letter : Char} {source : Source}
    (h : set.get? letter = some source) : source ∈ set.sources ∧ source.letter = letter :=
  ⟨List.mem_of_find?_eq_some h, by simpa using List.find?_some h⟩

/-- Looking up a letter finds the source that has it. -/
theorem get?_eq_some_iff (h : ofSources given = .ok set) {letter : Char} {source : Source} :
    set.get? letter = some source ↔ source ∈ set.sources ∧ source.letter = letter := by
  refine ⟨mem_of_get?_eq_some, ?_⟩
  rintro ⟨hsource, rfl⟩
  exact find?_letter (nodup_letters h) hsource

/-- No two sources share a letter. -/
theorem eq_of_letter_eq (h : ofSources given = .ok set) {a b : Source} (ha : a ∈ set.sources)
    (hb : b ∈ set.sources) (hletter : a.letter = b.letter) : a = b := by
  have hget := find?_letter (nodup_letters h) ha
  rw [hletter, find?_letter (nodup_letters h) hb] at hget
  exact (Option.some.inj hget).symm

end SeriesPlot.SourceSet
