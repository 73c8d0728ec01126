import SeriesPlot.Proofs.Binary64.Order
import SeriesPlot.Proofs.Calendar.Part

/-!
# `SeriesPlot.Proofs.Calendar.WholeSeconds`: whole seconds of whole milliseconds

Some milliseconds are turned into whole seconds by a rounded quotient, of which the fraction is
dropped. Below `2 ^ 53` milliseconds this gives the exact number of whole seconds
(`Binary64.trunc_in_seconds`). The quotient is off by less than the thousandth that it may lie
below a whole number, and where it is whole it is not rounded.

From there on the milliseconds are rounded themselves, and the last second can be one too many.
But then there are so many that it makes no difference to a comparison with a length of time
that a unit of the calendar can have (`Binary64.trunc_in_seconds_le_iff`).

* `Binary64.exists_in_seconds_of_dvd`, `Binary64.exists_in_seconds_of_not_dvd`: the two cases of
  the quotient. Both are about units, where the quotient is a natural number.
* `Binary64.exists_trunc_in_seconds`: beyond `2 ^ 53` milliseconds there are more than `2 ^ 41`
  seconds, which is all that a comparison needs (`Binary64.not_ofInt_le`).
-/

set_option autoImplicit false

namespace SeriesPlot.Binary64

variable {m q : Magnitude} {n k : Nat}

/-! ### Whole numbers that are exact -/

/-- A whole number below `2 ^ 53` is exact, zero included. -/
theorem exists_ofInt_eq_exact (hlimit : n < 2 ^ 53) :
    ∃ m, ofInt n = finite false m ∧ m.units = n * Magnitude.unitsPerOne := by
  by_cases hzero : n = 0
  · refine ⟨.zero, ?_, ?_⟩
    · rw [hzero]
      decide +kernel
    · rw [hzero, Nat.zero_mul]
      rfl
  · exact exists_ofInt_eq_whole (by omega) hlimit

/-- Whole numbers below `2 ^ 53` compare as the numbers that they stand for. -/
theorem ofInt_le_ofInt_iff (hk : k < 2 ^ 53) (hn : n < 2 ^ 53) :
    ofInt k ≤ ofInt n ↔ k ≤ n := by
  obtain ⟨a, ha, hkUnits⟩ := exists_ofInt_eq_exact hk
  obtain ⟨b, hb, hnUnits⟩ := exists_ofInt_eq_exact hn
  rw [ha, hb, finite_le_finite_iff]
  show (a.units : Int) ≤ b.units ↔ _
  rw [hkUnits, hnUnits, Int.ofNat_le]
  exact Nat.mul_le_mul_right_iff Magnitude.unitsPerOne_pos

/-- The fraction is dropped exactly. -/
theorem trunc_finite_false (m : Magnitude) :
    (finite false m).trunc = ofInt (floorMagnitude m) := by
  have hsign : decide ((floorMagnitude m : Int) < 0) = false :=
    decide_eq_false (Int.not_lt.mpr (Int.natCast_nonneg _))
  show ofRatio false (floorMagnitude m) 1 = _
  unfold ofInt
  rw [Int.natAbs_natCast, hsign]

/-! ### The quotient by a thousand -/

/-- Whole seconds are not rounded. -/
theorem exists_in_seconds_of_dvd (hpos : 1 ≤ k) (hlimit : 1000 * k < 2 ^ 53) :
    ∃ q, ofInt (1000 * k : Nat) / 1000 = finite false q ∧
      q.units = k * Magnitude.unitsPerOne := by
  obtain ⟨m, hm, hunits⟩ := exists_ofInt_eq_exact hlimit
  obtain ⟨thousand, hthousand, hthousandUnits⟩ :=
    exists_ofNat_eq_whole (by decide : 1 ≤ 1000) (by decide)
  obtain ⟨q, hround, hq⟩ := Magnitude.exists_round?_whole hpos (by omega : k < 2 ^ 53)
  refine ⟨q, ?_, hq⟩
  have hscaled := @Magnitude.round?_mul_right (k * Magnitude.unitsPerOne) 1 1000 (by decide)
  have hmillis : k * Magnitude.unitsPerOne * 1000 = m.units := by
    rw [hunits, Nat.mul_comm, ← Nat.mul_assoc]
  rw [hround, hmillis, Nat.one_mul] at hscaled
  rw [hm, hthousand]
  exact div_whole (by decide) hthousandUnits hscaled false false

/-- Between two whole numbers of seconds the error does not reach either. -/
theorem exists_in_seconds_of_not_dvd (hrest : n % 1000 ≠ 0) (hlimit : n < 2 ^ 53) :
    ∃ q, ofInt n / 1000 = finite false q ∧
      n / 1000 * Magnitude.unitsPerOne ≤ q.units ∧
      q.units < (n / 1000 + 1) * Magnitude.unitsPerOne := by
  have hunit := Magnitude.unitsPerOne_pos
  obtain ⟨m, hm, hunits⟩ := exists_ofInt_eq_exact hlimit
  have hleast : Magnitude.unitsPerOne ≤ n * Magnitude.unitsPerOne :=
    Nat.le_mul_of_pos_left _ (by omega)
  have hmost : n * Magnitude.unitsPerOne < 2 ^ 53 * Magnitude.unitsPerOne :=
    Nat.mul_lt_mul_of_pos_right hlimit hunit
  have hmoderate : Magnitude.unitsPerOne * 1000 ≤ 2 ^ 64 * m.units ∧
      m.units < 2 ^ 64 * (Magnitude.unitsPerOne * 1000) := by
    rw [hunits]
    generalize Magnitude.unitsPerOne = u at *
    omega
  obtain ⟨q, hq, habove, hbelow⟩ :=
    exists_div_ofNat (by decide : 1 ≤ 1000) (by decide) hmoderate.1 hmoderate.2
  refine ⟨q, by rw [hm, hq], ?_⟩
  -- The rest is a thousandth at least, and a thousandth is missing to the next second.
  have hsplit : n * Magnitude.unitsPerOne =
      1000 * (n / 1000 * Magnitude.unitsPerOne) + n % 1000 * Magnitude.unitsPerOne := by
    rw [← Nat.mul_assoc, ← Nat.add_mul, Nat.div_add_mod]
  have hrestLeast : Magnitude.unitsPerOne ≤ n % 1000 * Magnitude.unitsPerOne :=
    Nat.le_mul_of_pos_left _ (Nat.pos_of_ne_zero hrest)
  have hrestMost : n % 1000 * Magnitude.unitsPerOne ≤ 999 * Magnitude.unitsPerOne :=
    Nat.mul_le_mul_right _ (Nat.le_of_lt_succ (Nat.mod_lt n (by decide)))
  rw [hunits] at habove hbelow
  rw [Nat.add_mul, Nat.one_mul]
  generalize Magnitude.unitsPerOne = u at *
  omega

/-- As long as whole milliseconds are exact, so are the whole seconds. -/
theorem trunc_in_seconds (hpos : 1 ≤ n) (hlimit : n < 2 ^ 53) :
    (ofInt n / 1000).trunc = ofInt (n / 1000 : Nat) := by
  have hunit := Magnitude.unitsPerOne_pos
  obtain ⟨q, hq, hlow, hhigh⟩ : ∃ q, ofInt n / 1000 = finite false q ∧
      n / 1000 * Magnitude.unitsPerOne ≤ q.units ∧
      q.units < (n / 1000 + 1) * Magnitude.unitsPerOne := by
    -- A whole number of seconds is exact, and any other is off by less than its distance to one.
    by_cases hrest : n % 1000 = 0
    · have hn : 1000 * (n / 1000) = n := Nat.mul_div_cancel' (Nat.dvd_of_mod_eq_zero hrest)
      obtain ⟨q, hq, hunits⟩ :=
        exists_in_seconds_of_dvd (by omega : 1 ≤ n / 1000) (by omega : 1000 * (n / 1000) < 2 ^ 53)
      rw [hn] at hq
      refine ⟨q, hq, Nat.le_of_eq hunits.symm, ?_⟩
      rw [hunits]
      exact Nat.mul_lt_mul_of_pos_right (Nat.lt_succ_self _) hunit
    · exact exists_in_seconds_of_not_dvd hrest hlimit
  have hfloor : floorMagnitude q = n / 1000 := Nat.div_eq_of_lt_le hlow hhigh
  rw [hq, trunc_finite_false, hfloor]

/-- Where whole milliseconds are rounded, there are more than `2 ^ 41` seconds of them. -/
theorem exists_trunc_in_seconds (hlow : 2 ^ 53 ≤ n) (hlimit : n < 2 ^ 54) :
    ∃ k : Nat, (ofInt n / 1000).trunc = ofInt k ∧ 2 ^ 41 ≤ k ∧ k < 2 ^ 53 := by
  have hunit := Magnitude.unitsPerOne_pos
  obtain ⟨q, width, hq, hwidth, hseconds, -, hmost⟩ :=
    exists_in_seconds (by omega : 1 ≤ n) hlimit
  -- Both roundings together are off by far less than the bounds leave room for.
  refine ⟨floorMagnitude q, by rw [hq, trunc_finite_false], ?_, ?_⟩
  · have hleast : 2 ^ 53 * Magnitude.unitsPerOne ≤ n * Magnitude.unitsPerOne :=
      Nat.mul_le_mul_right _ hlow
    unfold IsNear at hwidth hseconds
    refine (Nat.le_div_iff_mul_le hunit).mpr ?_
    generalize Magnitude.unitsPerOne = u at *
    omega
  · refine (Nat.div_lt_iff_lt_mul hunit).mpr (Nat.lt_of_le_of_lt hmost ?_)
    exact Nat.mul_lt_mul_of_pos_right (by decide) hunit

/-! ### Comparison with a length of time -/

/-- Whole seconds of such a size are above any length of time that is compared with them. -/
theorem not_ofInt_le {b : Binary64} (hb : b ≤ ofInt (2 ^ 40 : Nat)) (hlow : 2 ^ 41 ≤ k)
    (hlimit : k < 2 ^ 53) : ¬ofInt k ≤ b := by
  intro hle
  have hbetween := (ofInt_le_ofInt_iff hlimit (by decide)).mp (le_trans hle hb)
  omega

/-- The rounded whole seconds compare with a length of time as the exact ones do. -/
theorem trunc_in_seconds_le_iff {b : Binary64} (hb : b ≤ ofInt (2 ^ 40 : Nat)) (hpos : 1 ≤ n)
    (hlimit : n < 2 ^ 54) : (ofInt n / 1000).trunc ≤ b ↔ ofInt (n / 1000 : Nat) ≤ b := by
  by_cases hexact : n < 2 ^ 53
  · rw [trunc_in_seconds hpos hexact]
  · obtain ⟨k, hk, hkLow, hkLimit⟩ := exists_trunc_in_seconds (Nat.not_lt.mp hexact) hlimit
    rw [hk]
    exact iff_of_false (not_ofInt_le hb hkLow hkLimit) (not_ofInt_le hb (by omega) (by omega))

end SeriesPlot.Binary64
