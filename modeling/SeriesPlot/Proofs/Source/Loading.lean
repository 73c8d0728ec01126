import SeriesPlot.Proofs.Source.Content
import SeriesPlot.Proofs.Source.Landmarks

/-!
# `SeriesPlot.Proofs.Source.Loading`: files that are read into a set of sources

The sources of a set that is loaded are those of its files, in order
(`SourceSet.exists_source_of_load`). The times of a source are those of the first and of the last
sample of its file (`Source.times_of_ofBytes`), and nothing puts them in order. The union begins at
the earliest start and ends at the latest stop, so it is only bounded on one side by each time of a
source. What bounds it on the other side is said by `SourceSet.union_holds_times_iff`: a file whose
samples go backwards may have both of its times outside.

* `SourceSet.union_holds_start_iff`: a start is in the union iff some source stops no earlier.
* `SourceSet.union_holds_stop_iff`: a stop is in the union iff some source starts no later.
* `SourceSet.union_misses_backward_file`: two files for which neither is so.

Loading reads the files one after the other and gives out letters as it goes. Each result is in
the place of its element (`getElem?_of_mapM`), and letters that have been given out are given out
again when the set is made (`SourceSet.lettered_lettered`).
-/

set_option autoImplicit false

namespace SeriesPlot

open SeriesPlot.Text

/-- A chain of two steps has a result iff both steps have one. -/
theorem bind_eq_ok_iff {α β ε : Type} {x : Except ε α} {f : α → Except ε β} {b : β} :
    x >>= f = .ok b ↔ ∃ a, x = .ok a ∧ f a = .ok b := by
  cases x with
  | error e => simp [bind, Except.bind]
  | ok a => simp [bind, Except.bind]

/-- If there are results of all elements of a list, each is in the place of its element. -/
theorem getElem?_of_mapM {α β ε : Type} {f : α → Except ε β} {xs : List α} {ys : List β}
    (h : xs.mapM f = .ok ys) :
    ys.length = xs.length ∧
      ∀ (i : Nat) (x : α), xs[i]? = some x → ∃ y, f x = .ok y ∧ ys[i]? = some y := by
  induction xs generalizing ys with
  | nil =>
    cases h
    simp
  | cons first rest ih =>
    rw [List.mapM_cons, bind_eq_ok_iff] at h
    obtain ⟨y, hfirst, h⟩ := h
    obtain ⟨later, hrest, h⟩ := bind_eq_ok_iff.mp h
    cases h
    obtain ⟨hlength, hplaces⟩ := ih hrest
    refine ⟨congrArg (· + 1) hlength, fun i x hx => ?_⟩
    -- The first place is that of the first element, and the others move up by one.
    cases i with
    | zero =>
      obtain rfl := Option.some.inj hx
      exact ⟨y, hfirst, rfl⟩
    | succ n => exact hplaces n x hx

namespace Source

variable {s : Source} {letter : Char} {label : String} {bytes : List UInt8}

/-- The samples of a file, in order. -/
def samplesOf (bytes : List UInt8) : List (List UInt8) :=
  ((lines bytes).map dropReturn).filter isSample

/-- A source has the times of the first and of the last sample of its file. -/
theorem times_of_ofBytes (h : ofBytes letter label bytes = .ok s) :
    s.letter = letter ∧ ∃ first last, (samplesOf bytes).head? = some first ∧
      (samplesOf bytes).getLast? = some last ∧ sampleTime first = .ok s.start ∧
      sampleTime last = .ok s.stop := by
  by_cases hsampled : HasSample (headLines ((lines bytes).map dropReturn)) ∧
      HasSample (tailLines ((lines bytes).map dropReturn))
  · obtain ⟨first, last, hfirst, hlast, hresult⟩ :=
      ofBytes_eq_of_hasSample letter label rfl hsampled.1 hsampled.2
    rw [hresult] at h
    split at h <;> cases h
    exact ⟨rfl, first, last, hfirst, hlast, ‹_›, ‹_›⟩
  · rw [ofBytes_eq_noSamples letter label rfl hsampled] at h
    cases h

end Source

namespace SourceSet

variable {files : Files} {labels : List String} {set : SourceSet}

/-- Letters that have been given out are given out again. -/
theorem lettered_lettered (given : List Source) : lettered (lettered given) = lettered given := by
  unfold lettered
  apply List.ext_getElem?
  intro i
  rw [List.getElem?_zipWith, List.getElem?_zipWith]
  cases given[i]? <;> cases sourceLetters[i]? <;> rfl

/-- The sources of a set make this set. -/
theorem ofSources_sources {given : List Source} (h : ofSources given = .ok set) :
    ofSources set.sources = .ok set := by
  obtain ⟨hlength, hsources, hfirst, hlast, hoverlap⟩ := ofSources_eq_ok_iff.mp h
  refine ofSources_eq_ok_iff.mpr ⟨?_, ?_, ?_⟩
  · rw [hsources, lettered, List.length_zipWith]
    exact Nat.min_le_right _ _
  · rw [hsources, lettered_lettered]
  · rw [hsources, map_lettered (·.start) (fun _ _ => rfl) hlength,
      map_lettered (·.stop) (fun _ _ => rfl) hlength]
    exact ⟨hfirst, hlast, hoverlap⟩

/-- What is loaded is read from the files, in their places. -/
theorem exists_source_of_load (h : load files labels = .ok set) :
    ofSources set.sources = .ok set ∧ set.sources.length = labels.length ∧
      ∀ (i : Nat) (label : String), labels[i]? = some label →
        ∃ letter bytes s, files label = .ok bytes ∧
          Source.ofBytes letter label bytes = .ok s ∧ set.sources[i]? = some s := by
  unfold load at h
  by_cases hmany : sourceLetters.length < labels.length
  · rw [if_pos hmany] at h
    cases h
  · rw [if_neg hmany] at h
    obtain ⟨read, hread, hset⟩ := bind_eq_ok_iff.mp h
    obtain ⟨hlength, hplaces⟩ := getElem?_of_mapM hread
    have hzip : (labels.zip sourceLetters).length = labels.length := by
      rw [List.length_zip]
      omega
    refine ⟨ofSources_sources hset, ?_, fun i label hlabel => ?_⟩
    · rw [(sources_of_ofSources hset).1, lettered, List.length_zipWith, hlength, hzip]
      omega
    · -- The letter that a source is read with is the one that it gets in the set.
      obtain ⟨hi, -⟩ := List.getElem?_eq_some_iff.mp hlabel
      obtain ⟨letter, hletter⟩ : ∃ letter, sourceLetters[i]? = some letter :=
        ⟨_, List.getElem?_eq_getElem (by omega)⟩
      obtain ⟨s, hs, hplace⟩ := hplaces i (label, letter)
        (List.getElem?_zip_eq_some.mpr ⟨hlabel, hletter⟩)
      obtain ⟨bytes, hbytes, hs⟩ := bind_eq_ok_iff.mp hs
      obtain ⟨letter', hletter', hsource⟩ := exists_getElem?_sources hset hplace
      obtain rfl : letter = letter' := Option.some.inj (hletter.symm.trans hletter')
      obtain ⟨rfl, -⟩ := Source.times_of_ofBytes hs
      refine ⟨_, bytes, s, ?_, hs, hsource⟩
      cases hfile : files label with
      | error e => simp [hfile, Except.mapError] at hbytes
      | ok content => simpa [hfile, Except.mapError] using hbytes

variable {s : Source}

/-- A start is in the union iff some source stops no earlier. -/
theorem union_holds_start_iff (h : ofSources set.sources = .ok set) (hs : s ∈ set.sources) :
    set.union.Holds s.start ↔ ∃ other ∈ set.sources, s.start ≤ other.stop := by
  obtain ⟨-, -, -, hlast, -⟩ := ofSources_eq_ok_iff.mp h
  obtain ⟨hlatest, -⟩ := List.max?_eq_some_iff.mp hlast
  obtain ⟨latest, hmem, hstop⟩ := List.mem_map.mp hlatest
  constructor
  · rintro ⟨-, hwithin⟩
    exact ⟨latest, hmem, hstop ▸ hwithin⟩
  · rintro ⟨other, hother, hwithin⟩
    exact ⟨(union_bounds h hs).1, Std.le_trans hwithin (union_bounds h hother).2⟩

/-- A stop is in the union iff some source starts no later. -/
theorem union_holds_stop_iff (h : ofSources set.sources = .ok set) (hs : s ∈ set.sources) :
    set.union.Holds s.stop ↔ ∃ other ∈ set.sources, other.start ≤ s.stop := by
  obtain ⟨-, -, hfirst, -, -⟩ := ofSources_eq_ok_iff.mp h
  obtain ⟨hearliest, -⟩ := List.min?_eq_some_iff.mp hfirst
  obtain ⟨earliest, hmem, hstart⟩ := List.mem_map.mp hearliest
  constructor
  · rintro ⟨hwithin, -⟩
    exact ⟨earliest, hmem, hstart ▸ hwithin⟩
  · rintro ⟨other, hother, hwithin⟩
    exact ⟨Std.le_trans (union_bounds h hother).1 hwithin, (union_bounds h hs).2⟩

/-- Of every file that is loaded the first and the last sample have been read for the times of its
source. The union begins no later than the first of them and ends no earlier than the last. If the
last one is not earlier than the first, the union holds both. In general it holds the first iff
some file ends no earlier, and the last iff some file begins no later. -/
theorem union_holds_times_iff (h : load files labels = .ok set) :
    set.sources.length = labels.length ∧
    ∀ (i : Nat) (label : String), labels[i]? = some label →
      ∃ bytes first last s, files label = .ok bytes ∧
        (Source.samplesOf bytes).head? = some first ∧
        (Source.samplesOf bytes).getLast? = some last ∧
        sampleTime first = .ok s.start ∧ sampleTime last = .ok s.stop ∧
        set.sources[i]? = some s ∧
        set.union.start ≤ s.start ∧ s.stop ≤ set.union.stop ∧
        (s.start ≤ s.stop → set.union.Holds s.start ∧ set.union.Holds s.stop) ∧
        (set.union.Holds s.start ↔ ∃ other ∈ set.sources, s.start ≤ other.stop) ∧
        (set.union.Holds s.stop ↔ ∃ other ∈ set.sources, other.start ≤ s.stop) := by
  obtain ⟨hset, hlength, hplaces⟩ := exists_source_of_load h
  refine ⟨hlength, fun i label hlabel => ?_⟩
  obtain ⟨letter, bytes, s, hbytes, hread, hplace⟩ := hplaces i label hlabel
  obtain ⟨-, first, last, hfirst, hlast, hstart, hstop⟩ := Source.times_of_ofBytes hread
  have hs : s ∈ set.sources := List.mem_of_getElem? hplace
  obtain ⟨hbegins, hends⟩ := union_bounds hset hs
  refine ⟨bytes, first, last, s, hbytes, hfirst, hlast, hstart, hstop, hplace, hbegins, hends,
    fun hordered => ⟨?_, ?_⟩, union_holds_start_iff hset hs, union_holds_stop_iff hset hs⟩
  · exact (union_holds_start_iff hset hs).mpr ⟨s, hs, hordered⟩
  · exact (union_holds_stop_iff hset hs).mpr ⟨s, hs, hordered⟩

/-- The samples of the first file go backwards, from ten to midnight, and those of the second
file from midnight to noon. So the union holds both times of the first file too. -/
theorem union_holds_times_iff_of_backward_file :
    let files : Files := fun label => .ok <| List.map Char.toUInt8 <| String.toList <|
      if label = "a.csv" then "2013-06-01 10:00:00,1\n2013-06-01 00:00:00,2\n"
      else "2013-06-01 00:00:00,1\n2013-06-01 12:00:00,2\n"
    ∃ set s, load files ["a.csv", "b.csv"] = .ok set ∧ set.sources[0]? = some s ∧
      s.stop < s.start ∧ set.union.Holds s.start ∧ set.union.Holds s.stop := by
  intro files
  let midnight : Instant := ⟨1370044800000, by decide, by decide⟩
  let ten : Instant := ⟨1370080800000, by decide, by decide⟩
  let noon : Instant := ⟨1370088000000, by decide, by decide⟩
  let backward : Source := ⟨'a', ten, midnight, [], "a.csv"⟩
  let forward : Source := ⟨'b', midnight, noon, [], "b.csv"⟩
  have hload : load files ["a.csv", "b.csv"] =
      .ok ⟨[backward, forward], ⟨midnight, noon, by decide⟩, none⟩ := rfl
  -- The second file alone begins and ends around the first one's times.
  obtain ⟨-, hplaces⟩ := union_holds_times_iff hload
  obtain ⟨bytes, first, last, s, -, -, -, -, -, hplace, -, -, -, hstart, hstop⟩ :=
    hplaces 0 "a.csv" rfl
  obtain rfl : backward = s := Option.some.inj hplace
  exact ⟨_, backward, hload, rfl, by decide,
    hstart.mpr ⟨forward, by simp, by decide⟩, hstop.mpr ⟨forward, by simp, by decide⟩⟩

/-- If the second file is from five to six, neither time of the first one is in the union. -/
theorem union_misses_backward_file :
    let files : Files := fun label => .ok <| List.map Char.toUInt8 <| String.toList <|
      if label = "a.csv" then "2013-06-01 10:00:00,1\n2013-06-01 00:00:00,2\n"
      else "2013-06-01 05:00:00,1\n2013-06-01 06:00:00,2\n"
    ∃ set s, load files ["a.csv", "b.csv"] = .ok set ∧ set.sources[0]? = some s ∧
      set.union.stop < s.start ∧ s.stop < set.union.start := by
  intro files
  let five : Instant := ⟨1370062800000, by decide, by decide⟩
  let six : Instant := ⟨1370066400000, by decide, by decide⟩
  let backward : Source := ⟨'a', ⟨1370080800000, by decide, by decide⟩,
    ⟨1370044800000, by decide, by decide⟩, [], "a.csv"⟩
  have hload : load files ["a.csv", "b.csv"] =
      .ok ⟨[backward, ⟨'b', five, six, [], "b.csv"⟩], ⟨five, six, by decide⟩, none⟩ := rfl
  exact ⟨_, backward, hload, rfl, by decide, by decide⟩

end SourceSet

end SeriesPlot
