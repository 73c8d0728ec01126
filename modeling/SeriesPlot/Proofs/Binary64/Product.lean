import SeriesPlot.Proofs.Binary64.Rounding

/-!
# `SeriesPlot.Proofs.Binary64.Product`: products of two numbers

A product is rounded once. The lemmas say how far that takes it off, in a form that several
operations in a row can be chained in.

* `IsNear`: one number of units is off another by at most its `2 ^ 53`th part. Both are natural
  numbers, so the bound is linear.
* `exists_mul_finite`: a product that is neither large nor small is near the exact one.
* `exists_mul_half`: the product with a half is exact, if the number is not among the smallest.
* `IsNear.of_four`: four such steps together are off by less than the `2 ^ 50`th part of where
  they start. That is how far a part of the width of a window can be off.
-/

set_option autoImplicit false

namespace SeriesPlot

/-- The first number is off the second by at most its `2 ^ 53`th part. -/
def IsNear (x y : Nat) : Prop := 2 ^ 53 * x ≤ 2 ^ 53 * y + y ∧ 2 ^ 53 * y ≤ 2 ^ 53 * x + y

/-- What is near stays near if both numbers are multiplied. -/
theorem IsNear.mul_left {x y : Nat} (h : IsNear x y) (c : Nat) : IsNear (c * x) (c * y) := by
  have habove := Nat.mul_le_mul_left c h.1
  have hbelow := Nat.mul_le_mul_left c h.2
  simp only [Nat.mul_add, Nat.mul_left_comm c] at habove hbelow
  exact ⟨habove, hbelow⟩

/-- Four steps together are off by less than the `2 ^ 50`th part of where they start. -/
theorem IsNear.of_four {v w x y z : Nat} (hw : IsNear w v) (hx : IsNear x w) (hy : IsNear y x)
    (hz : IsNear z y) : 2 ^ 50 * z ≤ 2 ^ 50 * v + v ∧ 2 ^ 50 * v ≤ 2 ^ 50 * z + v := by
  unfold IsNear at *
  omega

namespace Binary64

variable {m k : Magnitude}

/-- A whole number of up to 64 digits is off by at most its `2 ^ 53`th part. -/
theorem exists_ofInt_of_lt {n : Nat} (hpos : 1 ≤ n) (hlimit : n < 2 ^ 64) :
    ∃ w, ofInt n = finite false w ∧ IsNear w.units (n * Magnitude.unitsPerOne) := by
  have hunits := Magnitude.unitsPerOne_pos
  have hleast : Magnitude.unitsPerOne ≤ n * Magnitude.unitsPerOne := Nat.le_mul_of_pos_left _ hpos
  have hmost : n * Magnitude.unitsPerOne < 2 ^ 64 * Magnitude.unitsPerOne :=
    Nat.mul_lt_mul_of_pos_right hlimit hunits
  obtain ⟨w, hround, herror⟩ := @Magnitude.exists_round?_moderate
    (n * Magnitude.unitsPerOne) 1 Nat.zero_lt_one (by omega) (by omega)
  rw [Nat.mul_one] at herror
  refine ⟨w, ?_, herror⟩
  unfold ofInt
  rw [Int.natAbs_natCast, ofRatio_of_round? hround]
  simp

/-- A product that is neither large nor small is off by at most its `2 ^ 53`th part. -/
theorem exists_mul_finite
    (hlow : Magnitude.unitsPerOne * Magnitude.unitsPerOne ≤ 2 ^ 64 * (m.units * k.units))
    (hhigh : m.units * k.units < 2 ^ 64 * (Magnitude.unitsPerOne * Magnitude.unitsPerOne))
    (s t : Bool) :
    ∃ p, finite s m * finite t k = finite (s != t) p ∧
      IsNear (p.units * Magnitude.unitsPerOne) (m.units * k.units) := by
  obtain ⟨p, hround, herror⟩ :=
    Magnitude.exists_round?_moderate Magnitude.unitsPerOne_pos hlow hhigh
  exact ⟨p, mul_of_round? hround s t, herror⟩

/-- The product with a half is exact, if the number is not among the smallest. -/
theorem exists_mul_half (hk : k.units * 2 = Magnitude.unitsPerOne) (hlow : 2 ^ 53 ≤ m.units)
    (s t : Bool) :
    ∃ half, finite s m * finite t k = finite (s != t) half ∧ half.units * 2 = m.units := by
  obtain ⟨half, hround, hunits⟩ := Magnitude.exists_round?_half hlow
  refine ⟨half, mul_of_round? ?_ s t, hunits⟩
  have hpos := Magnitude.unitsPerOne_pos
  have hscaled := @Magnitude.round?_mul_right m.units 2 k.units (by omega)
  rw [hround, Nat.mul_comm 2, hk] at hscaled
  exact hscaled

end Binary64

end SeriesPlot
