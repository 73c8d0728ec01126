import SeriesPlot.Proofs.Binary64.Product
import SeriesPlot.Proofs.Calendar.Offset

/-!
# `SeriesPlot.Proofs.Calendar.Part`: a part of a length of time

A part of a whole number of milliseconds is taken of the seconds, and these are brought back to
whole milliseconds. Four operations are rounded on the way: the number itself if it has more
than 53 digits, the quotient by a thousand, the product with the part and the product with a
thousand (`Binary64.exists_part_in_millis`). The rounding to whole milliseconds comes last
(`exists_wholeMillis?_part`).

`Magnitude.IsRoundedPart` is what this says about a part `n` of `w`, without the operations. Two
such parts may meet although each is less than a half:

* `Magnitude.IsRoundedPart.lt_of_usual`: the usual contraction leaves something of every window.
* `Magnitude.IsRoundedPart.left_le`: if nothing is left after rounding, not much more than one
  millisecond is left before it. If `w` is odd, next to nothing is left
  (`Magnitude.IsRoundedPart.left_le_of_odd`), as the half itself is not a whole number.
* `Magnitude.IsRoundedPart.le_of_even`: if `w` is even, the parts do meet as soon as not much less
  than one is left.
-/

set_option autoImplicit false

namespace SeriesPlot

namespace Binary64

variable {r : Magnitude} {w : Nat}

/-- A whole number of milliseconds in seconds is rounded twice. It is neither large nor small. -/
theorem exists_in_seconds (hpos : 1 ≤ w) (hlimit : w < 2 ^ 54) :
    ∃ (seconds : Magnitude) (width : Nat), ofInt w / 1000 = finite false seconds ∧
      IsNear width (w * Magnitude.unitsPerOne) ∧ IsNear (seconds.units * 1000) width ∧
      Magnitude.unitsPerOne ≤ 2 ^ 10 * seconds.units ∧
      seconds.units ≤ 2 ^ 45 * Magnitude.unitsPerOne := by
  have hunit := Magnitude.unitsPerOne_pos
  obtain ⟨width, hwidth, hnearWidth⟩ := exists_ofInt_of_lt hpos (by omega : w < 2 ^ 64)
  have hleast : Magnitude.unitsPerOne ≤ w * Magnitude.unitsPerOne := Nat.le_mul_of_pos_left _ hpos
  have hmost : w * Magnitude.unitsPerOne < 2 ^ 54 * Magnitude.unitsPerOne :=
    Nat.mul_lt_mul_of_pos_right hlimit hunit
  have hmoderate : Magnitude.unitsPerOne * 1000 ≤ 2 ^ 64 * width.units ∧
      width.units < 2 ^ 64 * (Magnitude.unitsPerOne * 1000) := by
    unfold IsNear at hnearWidth
    generalize Magnitude.unitsPerOne = u at *
    omega
  -- The first rounding leaves a width that the second one can take.
  obtain ⟨seconds, hseconds, hnearSeconds⟩ :=
    exists_div_ofNat (by decide : 1 ≤ 1000) (by decide) hmoderate.1 hmoderate.2
  refine ⟨seconds, width.units, by rw [hwidth, hseconds], hnearWidth, hnearSeconds, ?_⟩
  unfold IsNear at hnearWidth
  generalize Magnitude.unitsPerOne = u at *
  omega

/-- A part of some seconds, with its rounding, in milliseconds, which is rounded again. -/
theorem exists_mul_in_millis {seconds : Magnitude}
    (hlow : Magnitude.unitsPerOne ≤ 2 ^ 53 * r.units) (hhigh : 2 * r.units < Magnitude.unitsPerOne)
    (hsecondsLow : Magnitude.unitsPerOne ≤ 2 ^ 10 * seconds.units)
    (hsecondsHigh : seconds.units ≤ 2 ^ 45 * Magnitude.unitsPerOne) :
    ∃ (millis : Magnitude) (product : Nat),
      finite false r * finite false seconds * 1000 = finite false millis ∧
      IsNear (product * Magnitude.unitsPerOne) (r.units * seconds.units) ∧
      IsNear millis.units (product * 1000) := by
  have hunit := Magnitude.unitsPerOne_pos
  have hsquare := Nat.mul_pos hunit hunit
  -- What is linear in the products of units is said of these products alone.
  have hleast : Magnitude.unitsPerOne * Magnitude.unitsPerOne ≤
      2 ^ 63 * (r.units * seconds.units) := by
    have hproduct := Nat.mul_le_mul hlow hsecondsLow
    rw [Nat.mul_mul_mul_comm] at hproduct
    omega
  have hmost : r.units * seconds.units ≤
      2 ^ 45 * (Magnitude.unitsPerOne * Magnitude.unitsPerOne) := by
    have hr : r.units ≤ Magnitude.unitsPerOne := by omega
    have hproduct := Nat.mul_le_mul hr hsecondsHigh
    rw [Nat.mul_left_comm] at hproduct
    exact hproduct
  obtain ⟨product, hproduct, hnear⟩ :=
    exists_mul_finite (m := r) (k := seconds) (by omega) (by omega) false false
  obtain ⟨habove, hbelow⟩ := hnear
  have hlow' : Magnitude.unitsPerOne ≤ 2 ^ 64 * (product.units * 1000) := by
    refine Nat.le_of_mul_le_mul_right ?_ hunit
    rw [Nat.mul_assoc, Nat.mul_right_comm]
    omega
  have hhigh' : product.units * 1000 < 2 ^ 64 * Magnitude.unitsPerOne := by
    refine Nat.lt_of_mul_lt_mul_right (a := Magnitude.unitsPerOne) ?_
    rw [Nat.mul_right_comm, Nat.mul_assoc (2 ^ 64)]
    omega
  obtain ⟨millis, hmillis, hnearMillis⟩ :=
    exists_mul_ofNat (by decide : 1 ≤ 1000) (by decide) hlow' hhigh'
  exact ⟨millis, product.units, by rw [hproduct]; exact hmillis, ⟨habove, hbelow⟩, hnearMillis⟩

/-- A part of a whole number of milliseconds, computed in seconds, is off by less than the
`2 ^ 50`th part of a half of them. The part is less than a half, and not tiny. -/
theorem exists_part_in_millis (hlow : Magnitude.unitsPerOne ≤ 2 ^ 53 * r.units)
    (hhigh : 2 * r.units < Magnitude.unitsPerOne) (hpos : 1 ≤ w) (hlimit : w < 2 ^ 54) :
    ∃ m, finite false r * (ofInt w / 1000) * 1000 = finite false m ∧
      2 ^ 50 * (2 * m.units) ≤ 2 ^ 50 * (2 * (r.units * w)) + w * Magnitude.unitsPerOne ∧
      2 ^ 50 * (2 * (r.units * w)) ≤ 2 ^ 50 * (2 * m.units) + w * Magnitude.unitsPerOne := by
  have hunit := Magnitude.unitsPerOne_pos
  obtain ⟨seconds, width, hseconds, hnearWidth, hnearSeconds, hsecondsLow, hsecondsHigh⟩ :=
    exists_in_seconds hpos hlimit
  obtain ⟨m, product, hmillis, hnearProduct, hnearMillis⟩ :=
    exists_mul_in_millis hlow hhigh hsecondsLow hsecondsHigh
  refine ⟨m, by rw [hseconds, hmillis], ?_⟩
  generalize Magnitude.unitsPerOne = u at *
  -- The four roundings in a row, each with the factor that makes one scale of theirs.
  have hthird := hnearProduct.mul_left 1000
  rw [show 1000 * (product * u) = u * (product * 1000) by ac_rfl,
    show 1000 * (r.units * seconds.units) = r.units * (seconds.units * 1000) by ac_rfl] at hthird
  obtain ⟨habove, hbelow⟩ := IsNear.of_four (hnearWidth.mul_left r.units)
    (hnearSeconds.mul_left r.units) hthird (hnearMillis.mul_left u)
  -- The part is less than a half, so the error is that of a half at most.
  have hhalf : 2 * (u * (r.units * w)) ≤ u * (w * u) := by
    have hless := Nat.mul_le_mul_right (w * u) (Nat.le_of_lt hhigh)
    rw [show 2 * r.units * (w * u) = 2 * (u * (r.units * w)) by ac_rfl] at hless
    exact hless
  rw [show r.units * (w * u) = u * (r.units * w) by ac_rfl] at habove hbelow
  constructor
  · refine Nat.le_of_mul_le_mul_left ?_ hunit
    rw [Nat.mul_add, Nat.mul_left_comm u (2 ^ 50), Nat.mul_left_comm u (2 ^ 50),
      Nat.mul_left_comm u 2, Nat.mul_left_comm u 2]
    omega
  · refine Nat.le_of_mul_le_mul_left ?_ hunit
    rw [Nat.mul_add, Nat.mul_left_comm u (2 ^ 50), Nat.mul_left_comm u (2 ^ 50),
      Nat.mul_left_comm u 2, Nat.mul_left_comm u 2]
    omega

end Binary64

/-- A part of a whole number `w`, rounded to a whole number `n`. It is off by a half at most for
that, and by the `2 ^ 50`th part of a half of `w` for the arithmetic before. -/
structure Magnitude.IsRoundedPart (r : Magnitude) (w n : Nat) : Prop where
  above : 2 ^ 50 * (2 * (n * unitsPerOne)) ≤
    2 ^ 50 * (2 * (r.units * w) + unitsPerOne) + w * unitsPerOne
  below : 2 ^ 50 * (2 * (r.units * w)) <
    2 ^ 50 * (2 * (n * unitsPerOne) + unitsPerOne) + w * unitsPerOne

namespace Magnitude.IsRoundedPart

variable {r : Magnitude} {w n left : Nat}

/-- Two parts and what is left are the whole. -/
theorem parts_add_left (hleft : 2 * r.units + left = unitsPerOne) :
    2 * (r.units * w) + w * left = w * unitsPerOne := by
  rw [← hleft, Nat.mul_add]
  ac_rfl

/-- The usual contraction leaves something of every window. -/
theorem lt_of_usual (h : r.IsRoundedPart w n) (husual : 100 * r.units ≤ 21 * unitsPerOne)
    (hpos : 1 ≤ w) : 2 * n < w := by
  have hunit := unitsPerOne_pos
  obtain ⟨habove, -⟩ := h
  generalize unitsPerOne = u at *
  have hparts := Nat.mul_le_mul_right w husual
  have hunits : 200 * 2 ^ 50 * n * u ≤ (42 * 2 ^ 50 * w + 100 * w + 100 * 2 ^ 50) * u := by
    simp only [Nat.add_mul, Nat.mul_assoc, Nat.mul_comm u w] at hparts ⊢
    omega
  have hcount := Nat.le_of_mul_le_mul_right hunits hunit
  omega

/-- If nothing is left after rounding, not much more than one is left before it. -/
theorem left_le (h : r.IsRoundedPart w n) (hleft : 2 * r.units + left = unitsPerOne)
    (hmeet : w ≤ 2 * n) : 2 ^ 50 * (w * left) ≤ (2 ^ 50 + w) * unitsPerOne := by
  obtain ⟨habove, -⟩ := h
  have hunits := Nat.mul_le_mul_right unitsPerOne hmeet
  have hwhole := parts_add_left (w := w) hleft
  rw [Nat.add_mul]
  generalize unitsPerOne = u at *
  rw [Nat.mul_assoc] at hunits
  omega

/-- If `w` is odd, the half itself is not a whole number and has to be passed. -/
theorem left_le_of_odd (h : r.IsRoundedPart w n) (hleft : 2 * r.units + left = unitsPerOne)
    (hmeet : w ≤ 2 * n) (hodd : w % 2 = 1) : 2 ^ 50 * left ≤ unitsPerOne := by
  obtain ⟨habove, -⟩ := h
  have hunits := Nat.mul_le_mul_right unitsPerOne (by omega : w + 1 ≤ 2 * n)
  have hwhole := parts_add_left (w := w) hleft
  refine Nat.le_of_mul_le_mul_left ?_ (by omega : 0 < w)
  rw [Nat.mul_left_comm]
  generalize unitsPerOne = u at *
  rw [Nat.mul_assoc, Nat.add_mul] at hunits
  omega

/-- If `w` is even, nothing is left after rounding as soon as not much less than one is left
before it. -/
theorem le_of_even (h : r.IsRoundedPart w n) (hleft : 2 * r.units + left = unitsPerOne)
    (heven : w % 2 = 0)
    (hsmall : 2 ^ 50 * (w * left) + w * unitsPerOne ≤ 2 ^ 50 * unitsPerOne) : w ≤ 2 * n := by
  obtain ⟨-, hbelow⟩ := h
  have hwhole := parts_add_left (w := w) hleft
  have hunits : w * unitsPerOne < (2 * n + 2) * unitsPerOne := by
    rw [Nat.add_mul, Nat.mul_assoc]
    generalize unitsPerOne = u at *
    omega
  have hcount := Nat.lt_of_mul_lt_mul_right hunits
  omega

end Magnitude.IsRoundedPart

/-- A part of a whole number of milliseconds is rounded to a whole number of them. -/
theorem exists_wholeMillis?_part {r : Magnitude} {w : Nat}
    (hlow : Magnitude.unitsPerOne ≤ 2 ^ 53 * r.units) (hhigh : 2 * r.units < Magnitude.unitsPerOne)
    (hpos : 1 ≤ w) (hlimit : w ≤ Instant.latestMillis - Instant.earliestMillis) :
    ∃ n : Nat, wholeMillis? (.finite false r * (.ofInt w / 1000)) = some (n : Int) ∧
      r.IsRoundedPart w n := by
  unfold Instant.latestMillis Instant.earliestMillis at hlimit
  obtain ⟨millis, hmillis, habove, hbelow⟩ :=
    Binary64.exists_part_in_millis hlow hhigh hpos (by omega)
  obtain ⟨hroundAbove, hroundBelow⟩ := Binary64.roundMagnitude_error millis
  have hround : (.finite false r * (.ofInt w / 1000) * 1000 : Binary64).round? =
      some (Binary64.roundMagnitude millis : Int) := by
    rw [hmillis, Binary64.round?_finite_false]
  -- The part is less than half of the width, so rounding keeps it in the range.
  have hhalf : 2 * (r.units * w) < w * Magnitude.unitsPerOne := by
    rw [← Nat.mul_assoc, Nat.mul_comm w]
    exact Nat.mul_lt_mul_of_pos_right hhigh hpos
  refine ⟨Binary64.roundMagnitude millis, wholeMillis?_of_round? hround ?_, ?_⟩
  · -- Half of the widest range is below the limit.
    have hunits : 2 ^ 51 * Binary64.roundMagnitude millis * Magnitude.unitsPerOne <
        (2 ^ 50 * w + w + 2 ^ 50) * Magnitude.unitsPerOne := by
      rw [Nat.add_mul, Nat.add_mul, Nat.mul_assoc, Nat.mul_assoc]
      generalize Magnitude.unitsPerOne = u at *
      omega
    have hcount := Nat.lt_of_mul_lt_mul_right hunits
    unfold millisLimit
    omega
  · constructor
    · generalize Magnitude.unitsPerOne = u at *
      omega
    · generalize Magnitude.unitsPerOne = u at *
      omega

end SeriesPlot
