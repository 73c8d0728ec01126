import SeriesPlot.Proofs.Binary64.Whole
import SeriesPlot.Proofs.Command.Intent

/-!
# `SeriesPlot.Proofs.Command.Arrows`: the length of a typed change

What is typed as a relative change has a length that is not a NaN
(`Shift.length_ne_nan_of_parse?`). The length is the product of a number and a count.

* `Shift.magnitudeOf_ne_nan`: the number is read from digits, and no numeral is read as a NaN.
* `Shift.intensityOf_bounds`: the count is at least one, even in a word without arrows, and it
  stops at the largest number of 32 bits. So it is neither zero nor an infinity, and even an
  infinite number stays one.

That the length is a number is what the sign of a mirrored move depends on.
-/

set_option autoImplicit false

namespace SeriesPlot

namespace Shift

/-- A move has an arrow to count. -/
theorem exists_isArrow_of_directionOf {word : List Char}
    (h : directionOf word = .forward ∨ directionOf word = .backward) :
    ∃ c ∈ word, isArrow c = true := by
  have harrows : word.filter isArrow ≠ [] := by
    intro hnone
    have hresize : directionOf word = .resize := by
      unfold directionOf
      rw [hnone]
      rfl
    rw [hresize] at h
    rcases h with h | h <;> cases h
  obtain ⟨c, hc⟩ := List.exists_mem_of_ne_nil _ harrows
  exact ⟨c, List.mem_filter.mp hc⟩

/-- The first run of the characters of a class is not empty if there are such characters. -/
theorem one_le_length_firstRun {word : List Char} {inClass : Char → Bool}
    (h : ∃ c ∈ word, inClass c = true) :
    1 ≤ ((word.dropWhile (!inClass ·)).takeWhile inClass).length := by
  induction word with
  | nil =>
    obtain ⟨c, hc, -⟩ := h
    exact absurd hc List.not_mem_nil
  | cons c rest ih =>
    -- The run begins here, or the character is found later.
    by_cases hfirst : inClass c = true
    · simp [hfirst]
    · obtain ⟨d, hd, hclass⟩ := h
      have hrest : d ∈ rest := by
        rcases List.mem_cons.mp hd with rfl | hrest
        · exact absurd hclass hfirst
        · exact hrest
      simpa [hfirst] using ih ⟨d, hrest, hclass⟩

/-- Arrows are counted from one up to the largest number of 32 bits. -/
theorem intensityOf_bounds (word : List Char) :
    1 ≤ intensityOf word ∧ intensityOf word < 2 ^ 32 := by
  unfold intensityOf
  split
  case h_1 hforward =>
    have hrun := one_le_length_firstRun (exists_isArrow_of_directionOf (.inl hforward))
    unfold intensityLimit
    omega
  case h_2 hbackward =>
    have hrun := one_le_length_firstRun (exists_isArrow_of_directionOf (.inr hbackward))
    unfold intensityLimit
    omega
  case h_3 => decide

/-- The number of a relative change is read from digits, so it is not a NaN. -/
theorem magnitudeOf_ne_nan (word : List Char) : magnitudeOf word ≠ some .nan := by
  unfold magnitudeOf
  split
  · exact nofun
  · split
    · rename_i hnumeral
      intro hnan
      exact Binary64.ne_nan_of_numeral? hnumeral (Option.some.inj hnan)
    · exact fun hnan => Binary64.ofNat_ne_nan 0 (Option.some.inj hnan)

/-- The length of a relative change that is typed is a number, since neither its count of arrows
nor its number is a NaN or zero times an infinity. -/
theorem length_ne_nan_of_parse? {word : List Char} {s : Shift}
    (h : TimeToken.parse? word = some (.ok (.shift s))) : s.length ≠ .nan := by
  have hparse := TimeToken.shiftParse?_of_parse? h
  unfold parse? at hparse
  dsimp only at hparse
  split at hparse
  · cases hparse
  · cases hparse
    -- The count is positive and small, so only the number could be at fault.
    obtain ⟨hpos, hlimit⟩ := intensityOf_bounds word
    unfold length
    refine Binary64.mul_ofInt_ne_nan ?_ hpos hlimit
    dsimp only
    cases hmagnitude : magnitudeOf word with
    | none => exact Binary64.ofNat_ne_nan 1
    | some v =>
      rintro rfl
      exact magnitudeOf_ne_nan word hmagnitude

end Shift

end SeriesPlot
