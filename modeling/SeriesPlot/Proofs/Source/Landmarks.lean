import SeriesPlot.Proofs.Calendar.Instant
import SeriesPlot.Proofs.Source.Set

/-!
# `SeriesPlot.Proofs.Source.Landmarks`: the windows that sources have in common

The union of some sources is between two of their times, the earliest start and the latest
stop, and the overlap between two others (`SourceSet.ofSources_eq_ok_iff`). The instants of the
overlap are just those that every source covers (`SourceSet.overlap_eq_some_iff`). A source that
ends before it starts covers none, so with such a source there is no overlap, and nothing is to
be assumed of the times of the sources. None of the landmarks depends on their order
(`SourceSet.ofSources_of_perm`).

* `SourceSet.union_bounds`, `SourceSet.overlap_bounds`: the overlap starts when some source starts
  and stops when some source stops, so it is a part of the union.
* `SourceSet.overlap_is_common_range`: the letters, the overlap and the order, for every list of
  sources that makes a set.

Letters do not change anything else about the sources (`SourceSet.map_lettered`), so the landmarks
are least and greatest elements of lists of instants, and those of lists in another order are the
same.
-/

set_option autoImplicit false

namespace SeriesPlot

/-- Whether an instant is between the start and the stop of a source, both included. -/
def Source.Covers (s : Source) (t : Instant) : Prop := s.start ≤ t ∧ t ≤ s.stop

/-- Whether an instant is in a window, whose edges are part of it. -/
def Window.Holds (w : Window) (t : Instant) : Prop := w.start ≤ t ∧ t ≤ w.stop

namespace Window

variable {w : Window} {first last : Instant}

/-- A window holds its start. -/
theorem holds_start (w : Window) : w.Holds w.start :=
  ⟨Int.le_refl _, Int.le_of_lt w.start_lt_stop⟩

/-- A window holds its stop. -/
theorem holds_stop (w : Window) : w.Holds w.stop :=
  ⟨Int.le_of_lt w.start_lt_stop, Int.le_refl _⟩

/-- The window between two instants is the one of the instants between them. -/
theorem of?_eq_some_iff_holds :
    of? first last = some w ↔ ∀ t, w.Holds t ↔ first ≤ t ∧ t ≤ last := by
  rw [of?_eq_some_iff]
  constructor
  · rintro ⟨rfl, rfl⟩ t
    exact Iff.rfl
  · intro h
    -- Both edges are between the instants, which are in order then, so the window holds them too.
    obtain ⟨hfirst, hstart⟩ := (h w.start).mp w.holds_start
    obtain ⟨hstop, hlast⟩ := (h w.stop).mp w.holds_stop
    have hordered : first ≤ last := Int.le_trans hfirst hstart
    obtain ⟨hstart', -⟩ := (h first).mpr ⟨Int.le_refl _, hordered⟩
    obtain ⟨-, hstop'⟩ := (h last).mpr ⟨hordered, Int.le_refl _⟩
    exact ⟨Std.le_antisymm hstart' hfirst, Std.le_antisymm hlast hstop'⟩

end Window

/-- The first of some instants does not depend on their order. -/
theorem min?_eq_some_of_perm {times times' : List Instant} (h : times.Perm times') {t : Instant}
    (hmin : times.min? = some t) : times'.min? = some t := by
  rw [List.min?_eq_some_iff] at *
  simpa [h.mem_iff] using hmin

/-- The latest of some times does not depend on their order. -/
theorem max?_eq_some_of_perm {times times' : List Instant} (h : times.Perm times') {t : Instant}
    (hmax : times.max? = some t) : times'.max? = some t := by
  rw [List.max?_eq_some_iff] at *
  simpa [h.mem_iff] using hmax

namespace SourceSet

variable {given other : List Source} {set : SourceSet} {lastStart firstStop : Instant}

/-- The letters do not change anything else about the sources. -/
theorem map_lettered {α : Type} (f : Source → α) (hf : ∀ s letter, f { s with letter } = f s)
    (h : given.length ≤ sourceLetters.length) : (lettered given).map f = given.map f := by
  have hpairs (letters : List Char) :
      List.zipWith (fun s _ => f s) given letters = ((given.zip letters).map Prod.fst).map f := by
    rw [List.map_map, ← List.map_uncurry_zip_eq_zipWith]
    rfl
  unfold lettered
  rw [List.map_zipWith]
  simp only [hf]
  rw [hpairs, List.map_fst_zip h]

/-- Which sources make a set, and what its windows are. -/
theorem ofSources_eq_ok_iff :
    ofSources given = .ok set ↔
      given.length ≤ sourceLetters.length ∧ set.sources = lettered given ∧
      (given.map (·.start)).min? = some set.union.start ∧
      (given.map (·.stop)).max? = some set.union.stop ∧
      ∃ lastStart firstStop, (given.map (·.start)).max? = some lastStart ∧
        (given.map (·.stop)).min? = some firstStop ∧
        set.overlap = Window.of? lastStart firstStop := by
  unfold ofSources
  by_cases hlength : sourceLetters.length < given.length
  · simp [hlength, Nat.not_le.mpr hlength]
  · have hfew : given.length ≤ sourceLetters.length := Nat.not_lt.mp hlength
    rw [if_neg hlength]
    dsimp only
    rw [map_lettered (·.start) (fun _ _ => rfl) hfew, map_lettered (·.stop) (fun _ _ => rfl) hfew]
    constructor
    · intro h
      split at h
      -- All four landmarks exist iff there are sources at all.
      case h_1 first last lastStart firstStop hfirst hlast hlastStart hfirstStop =>
        split at h
        case h_1 union hunion =>
          cases h
          obtain ⟨hstart, hstop⟩ := Window.of?_eq_some_iff.mp hunion
          exact ⟨hfew, rfl, hstart ▸ hfirst, hstop ▸ hlast, lastStart, firstStop, hlastStart,
            hfirstStop, rfl⟩
        case h_2 => cases h
      case h_2 => cases h
    · rintro ⟨-, hsources, hfirst, hlast, lastStart, firstStop, hlastStart, hfirstStop, hoverlap⟩
      have hunion : Window.of? set.union.start set.union.stop = some set.union :=
        Window.of?_eq_some_iff.mpr ⟨rfl, rfl⟩
      rw [hfirst, hlast, hlastStart, hfirstStop]
      dsimp only
      rw [hunion, ← hsources, ← hoverlap]

/-- All sources start and end in between the earliest start and the latest stop. -/
theorem union_bounds (h : ofSources given = .ok set) {s : Source} (hs : s ∈ given) :
    set.union.start ≤ s.start ∧ s.stop ≤ set.union.stop := by
  obtain ⟨-, -, hfirst, hlast, -⟩ := ofSources_eq_ok_iff.mp h
  obtain ⟨-, hleast⟩ := List.min?_eq_some_iff.mp hfirst
  obtain ⟨-, hmost⟩ := List.max?_eq_some_iff.mp hlast
  exact ⟨hleast _ (List.mem_map_of_mem hs), hmost _ (List.mem_map_of_mem hs)⟩

/-- What all sources cover is what is between the latest start and the earliest stop. -/
theorem forall_covers_iff (hlast : (given.map (·.start)).max? = some lastStart)
    (hfirst : (given.map (·.stop)).min? = some firstStop) (t : Instant) :
    (∀ s ∈ given, s.Covers t) ↔ lastStart ≤ t ∧ t ≤ firstStop := by
  rw [List.max?_le_iff hlast, List.le_min?_iff hfirst]
  simp only [List.forall_mem_map, Source.Covers]
  exact ⟨fun h => ⟨fun s hs => (h s hs).1, fun s hs => (h s hs).2⟩,
    fun h s hs => ⟨h.1 s hs, h.2 s hs⟩⟩

/-- The overlap holds the instants that all sources cover. -/
theorem overlap_eq_some_iff (h : ofSources given = .ok set) {w : Window} :
    set.overlap = some w ↔ ∀ t, w.Holds t ↔ ∀ s ∈ given, s.Covers t := by
  obtain ⟨-, -, -, -, lastStart, firstStop, hlast, hfirst, hoverlap⟩ := ofSources_eq_ok_iff.mp h
  simp only [hoverlap, Window.of?_eq_some_iff_holds, forall_covers_iff hlast hfirst]

/-- There is an overlap around any two instants that all sources cover. -/
theorem exists_overlap_of_covers (h : ofSources given = .ok set) {t u : Instant} (htu : t < u)
    (ht : ∀ s ∈ given, s.Covers t) (hu : ∀ s ∈ given, s.Covers u) :
    ∃ w, set.overlap = some w ∧ w.start ≤ t ∧ u ≤ w.stop := by
  obtain ⟨-, -, -, -, lastStart, firstStop, hlast, hfirst, hoverlap⟩ := ofSources_eq_ok_iff.mp h
  obtain ⟨hstart, -⟩ := (forall_covers_iff hlast hfirst t).mp ht
  obtain ⟨-, hstop⟩ := (forall_covers_iff hlast hfirst u).mp hu
  have hordered : lastStart < firstStop := by
    rw [Instant.lt_def] at *
    rw [Instant.le_def] at *
    omega
  refine ⟨⟨lastStart, firstStop, hordered⟩, ?_, hstart, hstop⟩
  rw [hoverlap]
  exact Window.of?_eq_some_iff.mpr ⟨rfl, rfl⟩

/-- The overlap is a part of the union, since it starts when some source starts and stops when
some source stops. -/
theorem overlap_bounds (h : ofSources given = .ok set) {w : Window}
    (hw : set.overlap = some w) : set.union.start ≤ w.start ∧ w.stop ≤ set.union.stop := by
  obtain ⟨-, -, hfirst, hlast, lastStart, firstStop, hlastStart, hfirstStop, hoverlap⟩ :=
    ofSources_eq_ok_iff.mp h
  obtain ⟨rfl, rfl⟩ := Window.of?_eq_some_iff.mp (hoverlap.symm.trans hw)
  obtain ⟨-, hleast⟩ := List.min?_eq_some_iff.mp hfirst
  obtain ⟨-, hmost⟩ := List.max?_eq_some_iff.mp hlast
  exact ⟨hleast _ (List.max?_mem hlastStart), hmost _ (List.min?_mem hfirstStop)⟩

/-- The same sources in another order make a set with the same windows. -/
theorem ofSources_of_perm (h : ofSources given = .ok set) (hperm : given.Perm other) :
    ofSources other = .ok { set with sources := lettered other } := by
  obtain ⟨hlength, -, hfirst, hlast, lastStart, firstStop, hlastStart, hfirstStop, hoverlap⟩ :=
    ofSources_eq_ok_iff.mp h
  have hstarts : (given.map (·.start)).Perm (other.map (·.start)) := hperm.map _
  have hstops : (given.map (·.stop)).Perm (other.map (·.stop)) := hperm.map _
  exact ofSources_eq_ok_iff.mpr ⟨hperm.length_eq ▸ hlength, rfl,
    min?_eq_some_of_perm hstarts hfirst, max?_eq_some_of_perm hstops hlast, lastStart, firstStop,
    max?_eq_some_of_perm hstarts hlastStart, min?_eq_some_of_perm hstops hfirstStop, hoverlap⟩

/-- No source has a letter that has not been given out. -/
theorem get?_eq_none (h : ofSources given = .ok set) {letter : Char}
    (hletter : letter ∉ sourceLetters.take given.length) : set.get? letter = none := by
  rw [Option.eq_none_iff_forall_ne_some]
  intro s hs
  obtain ⟨hmem, rfl⟩ := mem_of_get?_eq_some hs
  rw [← letters_of_ofSources h] at hletter
  exact hletter (List.mem_map_of_mem hmem)

/-- The sources of a set have their letters in order, and a letter finds the source in its place
and nothing else. The overlap of the sources is a part of their union. It is the window that
holds just the instants that all sources cover, and there is one around any two such instants. In
another order the sources have the same windows. It does not matter whether a source stops after
it starts. -/
theorem overlap_is_common_range (h : ofSources given = .ok set) :
    (set.sources.map (·.letter) = sourceLetters.take given.length ∧
      (∀ (i : Nat) (s : Source), given[i]? = some s → ∃ letter, sourceLetters[i]? = some letter ∧
        set.sources[i]? = some { s with letter } ∧ set.get? letter = some { s with letter }) ∧
      ∀ letter, letter ∉ sourceLetters.take given.length → set.get? letter = none) ∧
    (∀ w, set.overlap = some w → set.union.start ≤ w.start ∧ w.stop ≤ set.union.stop) ∧
    (∀ w, set.overlap = some w ↔ ∀ t, w.Holds t ↔ ∀ s ∈ given, s.Covers t) ∧
    (∀ t u, t < u → (∀ s ∈ given, s.Covers t) → (∀ s ∈ given, s.Covers u) →
      ∃ w, set.overlap = some w ∧ w.start ≤ t ∧ u ≤ w.stop) ∧
    ∀ other, given.Perm other → ∃ set', ofSources other = .ok set' ∧
      set'.union = set.union ∧ set'.overlap = set.overlap ∧
      set'.initialWindow = set.initialWindow := by
  refine ⟨⟨letters_of_ofSources h, fun i s hs => ?_, fun letter => get?_eq_none h⟩,
    fun w => overlap_bounds h, fun w => overlap_eq_some_iff h,
    fun t u => exists_overlap_of_covers h, fun other hperm => ?_⟩
  · obtain ⟨letter, hletter, hsource⟩ := exists_getElem?_sources h hs
    exact ⟨letter, hletter, hsource,
      (get?_eq_some_iff h).mpr ⟨List.mem_of_getElem? hsource, rfl⟩⟩
  · exact ⟨_, ofSources_of_perm h hperm, rfl, rfl, rfl⟩

/-- The second source is nested in the first one, and the third one starts last. -/
theorem overlap_is_common_range_of_nested :
    let hour (n : Int) : Instant := (Instant.epoch.add? (n * 3600000)).getD .epoch
    let source (start stop : Int) : Source := ⟨'?', hour start, hour stop, [], "x.csv"⟩
    let given := [source 0 10, source 2 8, source 5 15]
    ∃ set w, ofSources given = .ok set ∧ set.overlap = some w ∧
      w.start = hour 5 ∧ w.stop = hour 8 ∧ set.union.start = hour 0 ∧ set.union.stop = hour 15 ∧
      set.get? 'c' = some { source 5 15 with letter := 'c' } ∧
      (∀ t, w.Holds t ↔ ∀ s ∈ given, s.Covers t) ∧
      ∃ set', ofSources [source 5 15, source 0 10, source 2 8] = .ok set' ∧
        set'.initialWindow = w := by
  intro hour source given
  let union : Window := ⟨hour 0, hour 15, by decide⟩
  let w : Window := ⟨hour 5, hour 8, by decide⟩
  have hset : ofSources given = .ok ⟨lettered given, union, some w⟩ := rfl
  obtain ⟨⟨-, hget, -⟩, -, hoverlap, -, hperm⟩ := overlap_is_common_range hset
  obtain ⟨letter, hletter, -, hc⟩ := hget 2 (source 5 15) rfl
  obtain rfl : 'c' = letter := Option.some.inj hletter
  obtain ⟨set', hset', -, -, hinitial⟩ :=
    hperm [source 5 15, source 0 10, source 2 8] (by decide +kernel)
  exact ⟨_, w, hset, rfl, rfl, rfl, rfl, rfl, hc, (hoverlap w).mp rfl, set', hset', hinitial⟩

end SourceSet

end SeriesPlot
