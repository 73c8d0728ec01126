import Mathlib.Algebra.Group.Nat.Defs
import SeriesPlot.Binary64.Arithmetic
import SeriesPlot.Proofs.Binary64.Numeral

/-!
# `SeriesPlot.Proofs.Binary64.Rounding`: how far rounding is off

A quotient is rounded to a multiple of the unit of its 53rd binary digit, with ties to the even
multiple. The bounds here count units and are cross-multiplied, which keeps them linear in what
is rounded, so that arithmetic over the integers closes them.

* `Magnitude.round?_error`: with a full significand the result is off by at most its `2 ^ 53`th
  part.
* `Magnitude.units_mul_of_dvd`: a quotient that is a multiple of that unit already is not
  changed. Whole numbers of up to 53 digits (`Magnitude.exists_round?_whole`) and halves
  (`Magnitude.exists_round?_half`) are such multiples.
* `Magnitude.round?_mul_right`: a common factor of both numbers makes no difference.
* `Magnitude.exists_round?_moderate`: between `2 ^ -64` and `2 ^ 64` there is a result, and its
  significand is full. The width of any window is in between, in seconds and in milliseconds.
* `roundMagnitude_error`, `roundMagnitude_bounds`: rounding to a whole number is off by at most a
  half.

The number of units in one is a power of two with a large exponent. It is only named
(`Magnitude.exists_unitsPerOne_eq`) and never evaluated.
-/

set_option autoImplicit false

namespace SeriesPlot

/-! ### Natural numbers -/

/-- Rounding to a natural number is off by a half at most. -/
theorem nearestEven_error {num den : Nat} (hden : 0 < den) :
    2 * (nearestEven num den * den) ≤ 2 * num + den ∧
      2 * num ≤ 2 * (nearestEven num den * den) + den := by
  have hmod := Nat.mod_lt num hden
  have hnum : num / den * den + num % den = num := Nat.div_add_mod' num den
  unfold nearestEven
  dsimp only
  split
  · omega
  · rw [Nat.add_one_mul (num / den) den]
    omega

/-- A whole quotient stays. -/
theorem nearestEven_mul_of_dvd {num den : Nat} (h : den ∣ num) :
    nearestEven num den * den = num := by
  have hmod : num % den = 0 := Nat.mod_eq_zero_of_dvd h
  have hnum : num / den * den = num := Nat.div_mul_cancel h
  unfold nearestEven
  dsimp only
  rw [hmod]
  split
  · exact hnum
  · rename_i hhalf
    have hden : den = 0 := by omega
    rw [hden, Nat.zero_dvd] at h
    rw [h, hden, Nat.mul_zero]

/-- A common factor makes no difference to the rounded quotient. -/
theorem nearestEven_mul_right {num den d : Nat} (hd : 0 < d) :
    nearestEven (num * d) (den * d) = nearestEven num den := by
  have hless : 2 * (num % den) * d < den * d ↔ 2 * (num % den) < den := Nat.mul_lt_mul_right hd
  have heq : 2 * (num % den) * d = den * d ↔ 2 * (num % den) = den :=
    Nat.mul_left_inj (Nat.ne_of_gt hd)
  unfold nearestEven
  dsimp only
  rw [Nat.mul_div_mul_right _ _ hd, Nat.mul_mod_mul_right, ← Nat.mul_assoc]
  simp only [hless, heq]

namespace Magnitude

variable {num den : Nat} {m : Magnitude}

/-! ### Rounding a quotient -/

/-- A power of two adds its exponent to the binary logarithm. -/
theorem log2_mul_two_pow {n : Nat} (h : 1 ≤ n) (k : Nat) : (n * 2 ^ k).log2 = n.log2 + k := by
  have hn : n ≠ 0 := Nat.ne_of_gt h
  have hpow := Nat.two_pow_pos k
  rw [Nat.log2_eq_iff (Nat.ne_of_gt (Nat.mul_pos h hpow)), Nat.add_right_comm, Nat.pow_add,
    Nat.pow_add]
  exact ⟨Nat.mul_le_mul_right _ (Nat.log2_self_le hn),
    Nat.mul_lt_mul_of_pos_right Nat.lt_log2_self hpow⟩

/-- A quotient below the overflow limit is rounded to a magnitude. -/
theorem exists_round?_eq_some (h : (num / den).log2 < 2097) : ∃ m, round? num den = some m := by
  have hexponent : exponentFor (num / den) < 2045 := by
    unfold exponentFor
    omega
  unfold round?
  dsimp only
  -- Either rounding up has filled a bit more than there is room for, or it has not.
  split
  · rw [dif_pos (by omega)]
    exact ⟨_, rfl⟩
  · rw [dif_pos (by omega)]
    exact ⟨_, rfl⟩

/-- The magnitude that a quotient is rounded to has the value of the rounded significand, also
where the 54th bit moved it to the next exponent. -/
theorem units_of_round? (h : round? num den = some m) :
    m.units = significandFor num den * 2 ^ exponentFor (num / den) := by
  unfold round? at h
  dsimp only at h
  split at h
  · rename_i hfull
    split at h
    · cases h
      -- The carry has doubled the unit and halved the significand.
      rw [hfull, units]
      show 2 ^ 52 * 2 ^ (exponentFor (num / den) + 1) = 2 ^ 53 * 2 ^ exponentFor (num / den)
      rw [← Nat.pow_add, ← Nat.pow_add]
      exact congrArg (2 ^ ·) (by omega)
    · cases h
  · split at h
    · cases h
      rfl
    · cases h

/-- A quotient with a full significand is off by at most its `2 ^ 53`th part. -/
theorem round?_error (h : round? num den = some m) (hden : 0 < den)
    (hlow : 52 ≤ (num / den).log2) :
    2 ^ 53 * (m.units * den) ≤ 2 ^ 53 * num + num ∧
      2 ^ 53 * num ≤ 2 ^ 53 * (m.units * den) + num := by
  have hunits : m.units * den =
      significandFor num den * (den * 2 ^ exponentFor (num / den)) := by
    rw [units_of_round? h, Nat.mul_assoc, Nat.mul_comm _ den]
  obtain ⟨habove, hbelow⟩ := @nearestEven_error num (den * 2 ^ exponentFor (num / den))
    (Nat.mul_pos hden (Nat.two_pow_pos _))
  -- The unit is at most the `2 ^ 52`th part of the quotient.
  have hunit : 2 ^ 52 * (den * 2 ^ exponentFor (num / den)) ≤ num := by
    have hquotient : 2 ^ (52 + exponentFor (num / den)) ≤ num / den := by
      have hexponent : 52 + exponentFor (num / den) = (num / den).log2 := by
        unfold exponentFor
        omega
      rw [hexponent]
      refine Nat.log2_self_le fun hzero => ?_
      rw [hzero] at hlow
      exact absurd hlow (by decide)
    rw [Nat.le_div_iff_mul_le hden, Nat.pow_add] at hquotient
    rw [Nat.mul_comm den, ← Nat.mul_assoc]
    exact hquotient
  rw [hunits]
  unfold significandFor
  rw [Nat.pow_eq]
  omega

/-- A multiple of the unit of its 53rd digit is not changed. -/
theorem units_mul_of_dvd (h : round? num den = some m)
    (hdvd : den * 2 ^ exponentFor (num / den) ∣ num) : m.units * den = num := by
  rw [units_of_round? h, significandFor, Nat.pow_eq, Nat.mul_assoc, Nat.mul_comm _ den]
  exact nearestEven_mul_of_dvd hdvd

/-- A common factor makes no difference to the magnitude nearest to a quotient. -/
theorem round?_mul_right {d : Nat} (hd : 0 < d) :
    round? (num * d) (den * d) = round? num den := by
  have hquotient : num * d / (den * d) = num / den := Nat.mul_div_mul_right _ _ hd
  have hsignificand : significandFor (num * d) (den * d) = significandFor num den := by
    unfold significandFor
    rw [hquotient, Nat.mul_right_comm, nearestEven_mul_right hd]
  unfold round?
  simp only [hquotient, hsignificand]

/-! ### Halves -/

/-- A significand has 53 bits at most, which bounds the value of a magnitude. -/
theorem units_lt (m : Magnitude) : m.units < 2 ^ (53 + m.exponent) := by
  rw [Nat.pow_add]
  exact Nat.mul_lt_mul_of_pos_right m.significand_lt (Nat.two_pow_pos _)

/-- A magnitude is a multiple of the unit of its 53rd digit. -/
theorem dvd_units (m : Magnitude) : 2 ^ exponentFor m.units ∣ m.units := by
  have hexponent : exponentFor m.units ≤ m.exponent := by
    unfold exponentFor
    by_cases hzero : m.units = 0
    · rw [hzero]
      exact Nat.zero_le _
    · have hlog := (Nat.log2_lt hzero).mpr m.units_lt
      omega
  exact Nat.dvd_trans (Nat.pow_dvd_pow 2 hexponent) (Nat.dvd_mul_left _ _)

/-- Half of a magnitude is exact, if it is not among the smallest. -/
theorem exists_round?_half (hlow : 2 ^ 53 ≤ m.units) :
    ∃ half, round? m.units 2 = some half ∧ half.units * 2 = m.units := by
  have hzero : m.units ≠ 0 := by omega
  have hlog : m.units.log2 = (m.units / 2).log2 + 1 := by
    rw [Nat.log2_def, if_pos (by omega)]
  have hfull : 53 ≤ m.units.log2 := (Nat.le_log2 hzero).mpr hlow
  have hlimit := (Nat.log2_lt hzero).mpr m.units_lt
  have hexponent := m.exponent_le
  obtain ⟨half, hround⟩ := exists_round?_eq_some (by omega : (m.units / 2).log2 < 2097)
  refine ⟨half, hround, units_mul_of_dvd hround ?_⟩
  -- The half has one digit less, and with it the unit of its 53rd digit is half as large.
  have hdvd := m.dvd_units
  have hsucc : exponentFor m.units = exponentFor (m.units / 2) + 1 := by
    unfold exponentFor
    omega
  rw [hsucc, Nat.pow_succ, Nat.mul_comm] at hdvd
  exact hdvd

/-! ### Whole numbers -/

/-- The power of two is only named, so that it is not evaluated. -/
theorem exists_unitsPerOne_eq : ∃ k, k = 1074 ∧ unitsPerOne = 2 ^ k := by
  obtain ⟨k, hk, hunits⟩ : ∃ k, k = 1074 ∧ unitsPerOne = Nat.pow 2 k :=
    ⟨1074, rfl, by delta unitsPerOne; with_reducible rfl⟩
  exact ⟨k, hk, hunits⟩

/-- The smaller powers of two are no more than one. -/
theorem two_pow_le_unitsPerOne {j : Nat} (h : j ≤ 1074) : 2 ^ j ≤ unitsPerOne := by
  obtain ⟨k, hk, hunits⟩ := exists_unitsPerOne_eq
  rw [hunits]
  exact Nat.pow_le_pow_right (by decide) (hk ▸ h)

/-- There is a unit in one. -/
theorem unitsPerOne_pos : 0 < unitsPerOne :=
  Nat.lt_of_lt_of_le (Nat.two_pow_pos 0) (two_pow_le_unitsPerOne (Nat.zero_le _))

/-- A whole number of up to 53 digits is exact. -/
theorem exists_round?_whole {n : Nat} (hpos : 1 ≤ n) (hlimit : n < 2 ^ 53) :
    ∃ m, round? (n * unitsPerOne) 1 = some m ∧ m.units = n * unitsPerOne := by
  obtain ⟨k, hk, hunits⟩ := exists_unitsPerOne_eq
  have hlog := log2_mul_two_pow hpos k
  have hdigits : n.log2 < 53 := (Nat.log2_lt (Nat.ne_of_gt hpos)).mpr hlimit
  rw [hunits]
  obtain ⟨m, hround⟩ :=
    exists_round?_eq_some (by rw [Nat.div_one]; omega : (n * 2 ^ k / 1).log2 < 2097)
  refine ⟨m, hround, ?_⟩
  have hexact := units_mul_of_dvd hround
  rw [Nat.div_one, Nat.one_mul, Nat.mul_one] at hexact
  -- The spacing divides the units of one, so it divides any whole number of them.
  refine hexact (Nat.dvd_trans (Nat.pow_dvd_pow 2 ?_) (Nat.dvd_mul_left _ _))
  unfold exponentFor
  omega

/-- A quotient that is neither large nor small is off by at most its `2 ^ 53`th part. -/
theorem exists_round?_moderate (hden : 0 < den) (hlow : unitsPerOne * den ≤ 2 ^ 64 * num)
    (hhigh : num < 2 ^ 64 * (unitsPerOne * den)) :
    ∃ m, round? num den = some m ∧
      2 ^ 53 * (m.units * den) ≤ 2 ^ 53 * num + num ∧
      2 ^ 53 * num ≤ 2 ^ 53 * (m.units * den) + num := by
  obtain ⟨k, hk, hunits⟩ := exists_unitsPerOne_eq
  have hsplit : 2 ^ k = 2 ^ 64 * 2 ^ (k - 64) := by
    rw [← Nat.pow_add]
    exact congrArg (2 ^ ·) (by omega)
  have hfloor : 2 ^ (k - 64) ≤ num / den := by
    rw [Nat.le_div_iff_mul_le hden]
    rw [hunits, hsplit, Nat.mul_assoc] at hlow
    exact Nat.le_of_mul_le_mul_left hlow (Nat.two_pow_pos 64)
  have hceiling : num / den < 2 ^ (64 + k) := by
    rw [Nat.div_lt_iff_lt_mul hden, Nat.pow_add, Nat.mul_assoc, ← hunits]
    exact hhigh
  -- Between these bounds the quotient has enough digits to be rounded to 53 of them, and not so
  -- many that it overflows.
  have hzero : num / den ≠ 0 := Nat.ne_of_gt (Nat.lt_of_lt_of_le (Nat.two_pow_pos _) hfloor)
  have hleast := (Nat.le_log2 hzero).mpr hfloor
  have hmost := (Nat.log2_lt hzero).mpr hceiling
  obtain ⟨m, hround⟩ := exists_round?_eq_some (by omega : (num / den).log2 < 2097)
  exact ⟨m, hround, round?_error hround hden (by omega)⟩

end Magnitude

namespace Binary64

variable {m k r : Magnitude} {n : Nat}

/-- If the magnitude is not too large, it only gets its sign. -/
theorem ofRatio_of_round? {num den : Nat}
    (h : Magnitude.round? (num * Magnitude.unitsPerOne) den = some m) (negative : Bool) :
    ofRatio negative num den = finite negative m := by
  rw [ofRatio_eq]
  dsimp only
  rw [h]

/-- A whole number of up to 53 digits is a number. -/
theorem exists_ofInt_eq_whole (hpos : 1 ≤ n) (hlimit : n < 2 ^ 53) :
    ∃ m, ofInt n = finite false m ∧ m.units = n * Magnitude.unitsPerOne := by
  obtain ⟨m, hround, hunits⟩ := Magnitude.exists_round?_whole hpos hlimit
  refine ⟨m, ?_, hunits⟩
  unfold ofInt
  rw [Int.natAbs_natCast, ofRatio_of_round? hround]
  simp

/-- A natural number of up to 53 bits is exact, as is every integer of that size. -/
theorem exists_ofNat_eq_whole (hpos : 1 ≤ n) (hlimit : n < 2 ^ 53) :
    ∃ m, (OfNat.ofNat n : Binary64) = finite false m ∧ m.units = n * Magnitude.unitsPerOne := by
  obtain ⟨m, hround, hunits⟩ := Magnitude.exists_round?_whole hpos hlimit
  exact ⟨m, ofRatio_of_round? hround false, hunits⟩

/-- The product of two numbers is rounded as their units are, divided by the units in one. -/
theorem mul_of_round? {p : Magnitude}
    (h : Magnitude.round? (m.units * k.units) Magnitude.unitsPerOne = some p) (s t : Bool) :
    finite s m * finite t k = finite (s != t) p := by
  have hscaled := @Magnitude.round?_mul_right (m.units * k.units) Magnitude.unitsPerOne _
    Magnitude.unitsPerOne_pos
  rw [h] at hscaled
  show mul (finite s m) (finite t k) = _
  unfold mul
  exact ofRatio_of_round? hscaled (s != t)

/-- The product with a whole number is rounded as a magnitude is. -/
theorem mul_whole (hk : k.units = n * Magnitude.unitsPerOne)
    (h : Magnitude.round? (m.units * n) 1 = some r) (s t : Bool) :
    finite s m * finite t k = finite (s != t) r := by
  have hscaled := @Magnitude.round?_mul_right (m.units * n) 1 _ Magnitude.unitsPerOne_pos
  rw [h, Nat.one_mul, Nat.mul_assoc, ← hk] at hscaled
  exact mul_of_round? hscaled s t

/-- The quotient by a whole number is rounded as a magnitude is. -/
theorem div_whole (hn : 0 < n) (hk : k.units = n * Magnitude.unitsPerOne)
    (h : Magnitude.round? m.units n = some r) (s t : Bool) :
    finite s m / finite t k = finite (s != t) r := by
  have hpos := Magnitude.unitsPerOne_pos
  have hzero : k ≠ .zero := by
    rintro rfl
    have hprod := Nat.mul_pos hn hpos
    rw [← hk] at hprod
    exact absurd hprod (by decide)
  show div (finite s m) (finite t k) = _
  unfold div
  dsimp only
  rw [if_neg hzero]
  have hscaled := @Magnitude.round?_mul_right m.units n _ hpos
  rw [h, ← hk] at hscaled
  exact ofRatio_of_round? hscaled (s != t)

/-- The quotient by a whole number is off by at most its `2 ^ 53`th part. -/
theorem exists_div_ofNat (hpos : 1 ≤ n) (hlimit : n < 2 ^ 53)
    (hlow : Magnitude.unitsPerOne * n ≤ 2 ^ 64 * m.units)
    (hhigh : m.units < 2 ^ 64 * (Magnitude.unitsPerOne * n)) :
    ∃ q, finite false m / OfNat.ofNat n = finite false q ∧
      2 ^ 53 * (q.units * n) ≤ 2 ^ 53 * m.units + m.units ∧
      2 ^ 53 * m.units ≤ 2 ^ 53 * (q.units * n) + m.units := by
  obtain ⟨k, hk, hunits⟩ := exists_ofNat_eq_whole hpos hlimit
  obtain ⟨q, hround, herror⟩ := Magnitude.exists_round?_moderate hpos hlow hhigh
  refine ⟨q, ?_, herror⟩
  rw [hk]
  exact div_whole hpos hunits hround false false

/-- The product with a whole number is off by at most its `2 ^ 53`th part. -/
theorem exists_mul_ofNat (hpos : 1 ≤ n) (hlimit : n < 2 ^ 53)
    (hlow : Magnitude.unitsPerOne ≤ 2 ^ 64 * (m.units * n))
    (hhigh : m.units * n < 2 ^ 64 * Magnitude.unitsPerOne) :
    ∃ p, finite false m * OfNat.ofNat n = finite false p ∧
      2 ^ 53 * p.units ≤ 2 ^ 53 * (m.units * n) + m.units * n ∧
      2 ^ 53 * (m.units * n) ≤ 2 ^ 53 * p.units + m.units * n := by
  obtain ⟨k, hk, hunits⟩ := exists_ofNat_eq_whole hpos hlimit
  rw [← Nat.mul_one Magnitude.unitsPerOne] at hlow hhigh
  obtain ⟨p, hround, herror⟩ := Magnitude.exists_round?_moderate Nat.zero_lt_one hlow hhigh
  rw [Nat.mul_one] at herror
  refine ⟨p, ?_, herror⟩
  rw [hk]
  exact mul_whole hunits hround false false

/-- Halving is exact. -/
theorem exists_half (h : 2 ^ 53 ≤ m.units) :
    ∃ half, finite false m / 2 = finite false half ∧ half.units * 2 = m.units := by
  obtain ⟨half, hround, hunits⟩ := Magnitude.exists_round?_half h
  obtain ⟨two, htwo, htwoUnits⟩ := exists_ofNat_eq_whole (by decide : 1 ≤ 2) (by decide)
  refine ⟨half, ?_, hunits⟩
  rw [htwo]
  exact div_whole (by decide) htwoUnits hround false false

/-- A number without a sign is rounded to the integer nearest to its magnitude. -/
theorem round?_finite_false (m : Magnitude) :
    (finite false m).round? = some (roundMagnitude m : Int) := by
  unfold round?
  dsimp only
  rw [if_neg Bool.false_ne_true]

/-- Rounding to a whole number is off by a half at most. -/
theorem roundMagnitude_error (m : Magnitude) :
    2 * (roundMagnitude m * Magnitude.unitsPerOne) ≤ 2 * m.units + Magnitude.unitsPerOne ∧
      2 * m.units < 2 * (roundMagnitude m * Magnitude.unitsPerOne) + Magnitude.unitsPerOne := by
  have hpos := Magnitude.unitsPerOne_pos
  unfold roundMagnitude
  generalize Magnitude.unitsPerOne = u at *
  have hdiv := Nat.div_add_mod' (2 * m.units + u) (2 * u)
  have hmod := Nat.mod_lt (2 * m.units + u) (by omega : 0 < 2 * u)
  rw [Nat.mul_left_comm] at hdiv
  omega

/-- A magnitude less than half a unit away from a half of a whole number is rounded to a
neighbour of that half, and to the half itself if it is whole. -/
theorem roundMagnitude_bounds {w : Nat}
    (hlow : w * Magnitude.unitsPerOne < 2 * m.units + Magnitude.unitsPerOne)
    (hhigh : 2 * m.units < w * Magnitude.unitsPerOne + Magnitude.unitsPerOne) :
    w ≤ 2 * roundMagnitude m + 1 ∧ 2 * roundMagnitude m ≤ w + 1 := by
  obtain ⟨herrorLow, herrorHigh⟩ := roundMagnitude_error m
  generalize Magnitude.unitsPerOne = u at *
  generalize roundMagnitude m = n at *
  -- Strict bounds on multiples of `u` are bounds on their factors.
  have hbelow : 2 * n * u < (w + 2) * u := by
    rw [Nat.mul_assoc, Nat.add_mul]
    omega
  have habove : w * u < (2 * n + 2) * u := by
    rw [Nat.add_mul, Nat.mul_assoc]
    omega
  have hless := Nat.lt_of_mul_lt_mul_right hbelow
  have hmore := Nat.lt_of_mul_lt_mul_right habove
  omega

end Binary64

end SeriesPlot
