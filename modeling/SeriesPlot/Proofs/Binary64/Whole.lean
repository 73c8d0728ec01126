import SeriesPlot.Proofs.Binary64.Rounding

/-!
# `SeriesPlot.Proofs.Binary64.Whole`: whole numbers as factors

The length of a relative change is its number times the count of its arrows. The count is a
positive whole number that is not astronomically large, so it is rounded to a finite number other
than zero (`exists_ofInt_eq_finite`). Such a factor makes no NaN of anything, not even of an
infinity (`mul_ofInt_ne_nan`): a product is only a NaN if a factor is, or if zero meets an
infinity (`mul_finite_ne_nan`).

`clampWhole?_bounds` is about the way back. The whole part of a number, kept between two bounds,
is between them, and only a NaN has none.
-/

set_option autoImplicit false

namespace SeriesPlot

namespace Binary64

/-- A positive whole number of 32 bits is finite and not zero. -/
theorem exists_ofInt_eq_finite {n : Nat} (hpos : 1 ≤ n) (hlimit : n < 2 ^ 32) :
    ∃ m, ofInt n = finite false m ∧ m ≠ .zero := by
  obtain ⟨m, hn, hunits⟩ :=
    exists_ofInt_eq_whole hpos (Nat.lt_of_lt_of_le hlimit (by decide : 2 ^ 32 ≤ 2 ^ 53))
  refine ⟨m, hn, ?_⟩
  rintro rfl
  have hprod := Nat.mul_pos hpos Magnitude.unitsPerOne_pos
  rw [← hunits] at hprod
  exact absurd hprod (by decide)

/-- Only zero times an infinity, or a NaN, makes a NaN of a product. -/
theorem mul_finite_ne_nan {x : Binary64} (hx : x ≠ nan) {m : Magnitude} (hm : m ≠ .zero)
    (negative : Bool) : x * finite negative m ≠ nan := by
  show mul x (finite negative m) ≠ nan
  cases x with
  | nan => exact absurd rfl hx
  | infinite s =>
    unfold mul
    dsimp only
    rw [if_neg hm]
    exact nofun
  | finite s k =>
    unfold mul
    exact ofRatio_ne_nan _ _ _

/-- Such a factor makes no NaN. Only an infinity times zero would be one. -/
theorem mul_ofInt_ne_nan {x : Binary64} (hx : x ≠ nan) {n : Nat} (hpos : 1 ≤ n)
    (hlimit : n < 2 ^ 32) : x * ofInt n ≠ nan := by
  obtain ⟨m, hn, hm⟩ := exists_ofInt_eq_finite hpos hlimit
  rw [hn]
  exact mul_finite_ne_nan hx hm false

/-- Kept between two bounds, the whole part of a number other than a NaN is between them. -/
theorem clampWhole?_bounds {x : Binary64} (hx : x ≠ nan) {low high : Nat} (h : low ≤ high) :
    ∃ n, x.clampWhole? low high = some n ∧ low ≤ n ∧ n ≤ high := by
  cases x with
  | nan => exact absurd rfl hx
  | infinite negative => exact ⟨_, rfl, by split <;> omega, by split <;> omega⟩
  | finite negative m => exact ⟨_, rfl, by split <;> omega, by split <;> omega⟩

end Binary64

end SeriesPlot
