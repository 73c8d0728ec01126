import SeriesPlot.Binary64.Arithmetic

/-!
# `SeriesPlot.Proofs.Binary64.Order`: comparison is by value

Numbers other than NaN are ordered by their values, with the infinities at the ends. The
two zeros have one value, so the order is not antisymmetric, and no order class of the library
fits. The lemmas here are those that the comparisons of lengths need:

* `finite_le_finite_iff`, `finite_lt_finite_iff`: finite numbers compare as their signed units,
  which are integers.
* `le_trans`, `lt_trans`, `le_total`: but for a NaN the order is transitive and total.
* `lt_iff_not_le`: so what is not at most a number is above it. This turns a comparison that
  fails in a cascade of them into a lower bound for the next one.

Each is proved by the kinds of numbers. The cases with an infinity follow from its being the
greatest or the least one.
-/

set_option autoImplicit false

namespace SeriesPlot.Binary64

variable {x y z : Binary64}

/-- Finite numbers compare as their values do. -/
theorem finite_le_finite_iff {s t : Bool} {m k : Magnitude} :
    finite s m ≤ finite t k ↔ (finite s m).units ≤ (finite t k).units := by
  show le _ _ = true ↔ _
  simp [le]

/-- Finite numbers are compared by their units in the strict order too. -/
theorem finite_lt_finite_iff {s t : Bool} {m k : Magnitude} :
    finite s m < finite t k ↔ (finite s m).units < (finite t k).units := by
  show (le _ _ && !le _ _) = true ↔ _
  simp only [le, Bool.and_eq_true, Bool.not_eq_true', decide_eq_true_eq, decide_eq_false_iff_not]
  omega

/-- A NaN stands in no comparison. -/
theorem ne_nan_of_le (h : x ≤ y) : x ≠ nan ∧ y ≠ nan := by
  constructor
  · rintro rfl
    exact nomatch h
  · rintro rfl
    cases x <;> exact nomatch h

/-- The negative infinity is the least number. -/
theorem infinite_true_le (h : y ≠ nan) : infinite true ≤ y := by
  cases y with
  | nan => exact absurd rfl h
  | _ => rfl

/-- The positive infinity is the greatest number. -/
theorem le_infinite_false (h : x ≠ nan) : x ≤ infinite false := by
  cases x with
  | nan => exact absurd rfl h
  | infinite negative => cases negative <;> rfl
  | finite s m => rfl

/-- Nothing but the infinity itself is at least the positive infinity. -/
theorem eq_of_infinite_false_le (h : infinite false ≤ y) : y = infinite false := by
  cases y with
  | nan => exact nomatch h
  | infinite negative => cases negative with
    | true => exact nomatch h
    | false => rfl
  | finite s m => exact nomatch h

/-- Nothing but the infinity itself is at most the negative infinity. -/
theorem eq_of_le_infinite_true (h : x ≤ infinite true) : x = infinite true := by
  cases x with
  | nan => exact nomatch h
  | infinite negative => cases negative with
    | true => rfl
    | false => exact nomatch h
  | finite s m => exact nomatch h

/-- The order is transitive, also through the two zeros. -/
theorem le_trans (hxy : x ≤ y) (hyz : y ≤ z) : x ≤ z := by
  obtain ⟨hx, -⟩ := ne_nan_of_le hxy
  obtain ⟨hy, hz⟩ := ne_nan_of_le hyz
  -- An infinity at either end decides. Between two finite numbers no infinity fits.
  match x, y, z with
  | infinite true, _, _ => exact infinite_true_le hz
  | _, _, infinite false => exact le_infinite_false hx
  | infinite false, y, z =>
    rw [eq_of_infinite_false_le hxy] at hyz
    exact hyz
  | x, y, infinite true =>
    rw [eq_of_le_infinite_true hyz] at hxy
    exact hxy
  | finite s m, infinite true, _ => exact nomatch eq_of_le_infinite_true hxy
  | finite s m, infinite false, _ =>
    rw [eq_of_infinite_false_le hyz]
    exact le_infinite_false hx
  | finite s m, finite t k, finite u l =>
    rw [finite_le_finite_iff] at *
    exact Int.le_trans hxy hyz

/-- Any two numbers other than NaN can be compared. -/
theorem le_total (hx : x ≠ nan) (hy : y ≠ nan) : x ≤ y ∨ y ≤ x := by
  cases x with
  | nan => exact absurd rfl hx
  | infinite negative =>
    cases negative with
    | true => exact .inl (infinite_true_le hy)
    | false => exact .inr (le_infinite_false hy)
  | finite s m =>
    cases y with
    | nan => exact absurd rfl hy
    | infinite negative =>
      cases negative with
      | true => exact .inr (infinite_true_le hx)
      | false => exact .inl (le_infinite_false hx)
    | finite t k =>
      -- Finite numbers are compared by their signed units.
      rw [finite_le_finite_iff, finite_le_finite_iff]
      exact Int.le_total _ _

/-- The strict order is the order without its converse. -/
theorem lt_iff : x < y ↔ x ≤ y ∧ ¬y ≤ x := by
  show (x.le y && !y.le x) = true ↔ x.le y = true ∧ ¬y.le x = true
  rw [Bool.and_eq_true, Bool.not_eq_true', Bool.not_eq_true]

/-- What is not at most a number is above it. -/
theorem lt_iff_not_le (hx : x ≠ nan) (hy : y ≠ nan) : x < y ↔ ¬y ≤ x :=
  lt_iff.trans (and_iff_right_of_imp (le_total hx hy).resolve_right)

/-- The strict order is transitive. -/
theorem lt_trans (hxy : x < y) (hyz : y < z) : x < z := by
  rw [lt_iff] at *
  exact ⟨le_trans hxy.1 hyz.1, fun hzx => hxy.2 (le_trans hyz.1 hzx)⟩

end SeriesPlot.Binary64
