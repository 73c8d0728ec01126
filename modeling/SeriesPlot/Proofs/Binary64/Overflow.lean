import SeriesPlot.Proofs.Binary64.Rounding

/-!
# `SeriesPlot.Proofs.Binary64.Overflow`: which decimals are rounded to an infinity

The largest finite number is `2 ^ 1024 - 2 ^ 971`. Half of its last digit further on, at
`overflowLimit`, rounding goes up to an infinity, as the tie there goes to the even number
`2 ^ 1024`.

* `le_nearestEven_iff`: a quotient is rounded up to an even number from the tie below it on.
  This is the one fact about ties that the limit depends on.
* `Magnitude.round?_eq_none_iff`: a quotient of units is rounded to no magnitude iff it is at
  least the limit.
* `ofDecimal_cases`: a decimal is read as the infinity of its sign iff it is at least the limit
  (`Overflows`), and as a finite number otherwise.

`ofDecimal` decides very large and very small exponents without forming a power of ten. The two
shortcuts are shown to agree with the limit: from `10 ^ 401` on every power of ten is above it,
and a decimal with more places than its coefficient has bits is below one. The powers of two in
the limit are only named in the proofs, so that nothing evaluates them.
-/

set_option autoImplicit false

namespace SeriesPlot

/-- A quotient is rounded up to an even number from the half below that number on. -/
theorem le_nearestEven_iff {n num den : Nat} (heven : n % 2 = 0) (hden : 0 < den) :
    n ≤ nearestEven num den ↔ 2 * (n * den) ≤ 2 * num + den := by
  have hmod := Nat.mod_lt num hden
  have hnum : num / den * den + num % den = num := Nat.div_add_mod' num den
  unfold nearestEven
  dsimp only
  generalize num / den = quotient at *
  generalize num % den = remainder at *
  -- From here on the quotient is a number by itself, and only multiples of it by `den` matter.
  have hmono : ∀ {a b : Nat}, a ≤ b → a * den ≤ b * den := fun h => Nat.mul_le_mul_right den h
  have hone : (quotient + 1) * den = quotient * den + den := Nat.add_one_mul quotient den
  have htwo : (quotient + 2) * den = quotient * den + 2 * den := Nat.add_mul quotient 2 den
  split
  · refine ⟨fun h => ?_, fun h => Nat.le_of_not_lt fun hless => ?_⟩
    · have hle := hmono h
      omega
    · -- Only a tie below `n` would do, and there the quotient is odd.
      have hle := hmono (by omega : quotient + 1 ≤ n)
      by_cases hnext : n = quotient + 1
      · omega
      · have hfar := hmono (by omega : quotient + 2 ≤ n)
        omega
  · refine ⟨fun h => ?_, fun h => Nat.le_of_not_lt fun hless => ?_⟩
    · have hle := hmono h
      omega
    · have hfar := hmono (by omega : quotient + 2 ≤ n)
      omega

namespace Binary64

/-- The least number that is rounded to an infinity. -/
def overflowLimit : Nat := Nat.pow 2 1024 - Nat.pow 2 970

/-- The powers of two are only named, so that they are not evaluated. -/
theorem exists_overflowLimit_eq : ∃ k, k = 970 ∧ overflowLimit = (2 ^ 54 - 1) * 2 ^ k := by
  obtain ⟨j, k, hj, hk, hlimit⟩ :
      ∃ j k, j = 1024 ∧ k = 970 ∧ overflowLimit = Nat.pow 2 j - Nat.pow 2 k :=
    ⟨1024, 970, rfl, rfl, by delta overflowLimit; with_reducible rfl⟩
  have hsplit : j = 54 + k := by omega
  exact ⟨k, hk, by rw [hlimit, hsplit, Nat.pow_eq, Nat.pow_eq, Nat.pow_add, Nat.sub_one_mul]⟩

/-- The limit is positive, so zero does not overflow. -/
theorem overflowLimit_pos : 0 < overflowLimit := by
  obtain ⟨k, -, hlimit⟩ := exists_overflowLimit_eq
  rw [hlimit]
  exact Nat.mul_pos (by decide) (Nat.two_pow_pos k)

end Binary64

namespace Magnitude

open Binary64 (overflowLimit)

variable {num den : Nat}

/-- A quotient is rounded to no magnitude at an exponent that is too large, and at the largest
one if the significand fills up. -/
theorem round?_eq_none_iff_exponentFor :
    round? num den = none ↔
      2045 < exponentFor (num / den) ∨
        exponentFor (num / den) = 2045 ∧ 2 ^ 53 ≤ significandFor num den := by
  have hle : significandFor num den ≤ 2 ^ 53 := significandFor_le num den
  unfold round?
  dsimp only
  -- A significand that fills up is one binary digit more, which costs one exponent.
  split
  case isTrue hfull =>
    rw [Nat.pow_eq] at hfull
    split
    · simp only [reduceCtorEq, false_iff]
      omega
    · simp only [true_iff]
      omega
  case isFalse hfull =>
    rw [Nat.pow_eq] at hfull
    split
    · simp only [reduceCtorEq, false_iff]
      omega
    · simp only [true_iff]
      omega

/-- Half of the last digit of the largest magnitude is only named. -/
theorem exists_overflowUnits_eq :
    ∃ h, h = 2044 ∧ overflowLimit * unitsPerOne = (2 ^ 54 - 1) * 2 ^ h := by
  obtain ⟨k, hk, hunits⟩ := exists_unitsPerOne_eq
  obtain ⟨j, hj, hlimit⟩ := Binary64.exists_overflowLimit_eq
  exact ⟨j + k, by omega, by rw [hlimit, hunits, Nat.mul_assoc, ← Nat.pow_add]⟩

/-- A quotient of units is rounded to no magnitude from the overflow limit on. -/
theorem round?_eq_none_iff (hden : 0 < den) :
    round? num den = none ↔ overflowLimit * unitsPerOne * den ≤ num := by
  obtain ⟨h, hh, hlimit⟩ := exists_overflowUnits_eq
  rw [round?_eq_none_iff_exponentFor, ← Nat.le_div_iff_mul_le hden, hlimit]
  have hpos := Nat.two_pow_pos h
  -- The digits of the limit and of the quotient decide, unless there are equally many.
  rcases Nat.lt_trichotomy (num / den).log2 (h + 53) with hlog | hlog | hlog
  · have hless : num / den < 2 ^ 53 * 2 ^ h := by
      rw [← Nat.pow_add]
      exact Nat.lt_of_lt_of_le Nat.lt_log2_self (Nat.pow_le_pow_right (by decide) (by omega))
    unfold exponentFor
    omega
  · have hexponent : exponentFor (num / den) = h + 1 := by
      unfold exponentFor
      omega
    have hstep : den * 2 ^ (h + 1) = 2 * (den * 2 ^ h) := by
      rw [Nat.pow_succ, Nat.mul_comm _ 2, Nat.mul_left_comm]
    have hsignificand : 2 ^ 53 ≤ significandFor num den ↔
        2 * (2 ^ 53 * (2 * (den * 2 ^ h))) ≤ 2 * num + 2 * (den * 2 ^ h) := by
      unfold significandFor
      rw [hexponent, Nat.pow_eq, ← hstep]
      exact le_nearestEven_iff (by decide) (Nat.mul_pos hden (Nat.two_pow_pos _))
    rw [hsignificand, hexponent, Nat.le_div_iff_mul_le hden, Nat.mul_assoc, Nat.mul_comm _ den]
    generalize den * 2 ^ h = half
    omega
  · have hmore : 2 ^ 54 * 2 ^ h ≤ num / den := by
      rw [← Nat.pow_add]
      refine Nat.le_trans (Nat.pow_le_pow_right (by decide) (by omega)) (Nat.log2_self_le ?_)
      intro hzero
      rw [hzero] at hlog
      exact absurd hlog (by simp)
    unfold exponentFor
    omega

end Magnitude

namespace Binary64

/-- A quotient is rounded to the infinity of its sign from the limit on. -/
theorem ofRatio_cases (negative : Bool) {num den : Nat} (hden : 0 < den) :
    overflowLimit * den ≤ num ∧ ofRatio negative num den = infinite negative ∨
      ¬overflowLimit * den ≤ num ∧ ∃ m, ofRatio negative num den = finite negative m := by
  have hlimit : overflowLimit * Magnitude.unitsPerOne * den ≤ num * Magnitude.unitsPerOne ↔
      overflowLimit * den ≤ num := by
    rw [Nat.mul_right_comm]
    exact Nat.mul_le_mul_right_iff Magnitude.unitsPerOne_pos
  -- Numbers are rounded in units, so the limit is compared in units as well.
  have hround := @Magnitude.round?_eq_none_iff (num * Magnitude.unitsPerOne) den hden
  rw [hlimit] at hround
  cases h : Magnitude.round? (num * Magnitude.unitsPerOne) den with
  | some m =>
    rw [h] at hround
    refine .inr ⟨fun hle => ?_, m, ofRatio_of_round? h _⟩
    cases hround.mpr hle
  | none =>
    refine .inl ⟨hround.mp h, ?_⟩
    rw [ofRatio_eq]
    dsimp only
    rw [h]

/-- Whether a decimal is at least the limit, without fractions. -/
def Overflows (coefficient : Nat) (exponent : Int) : Prop :=
  overflowLimit * 10 ^ (-exponent).toNat ≤ coefficient * 10 ^ exponent.toNat

instance (coefficient : Nat) (exponent : Int) : Decidable (Overflows coefficient exponent) :=
  inferInstanceAs (Decidable (_ ≤ _))

/-- From `10 ^ 401` on a power of ten is above the limit, so it need not be formed. -/
theorem overflowLimit_lt_ten_pow {n : Nat} (h : 401 ≤ n) : overflowLimit < 10 ^ n := by
  obtain ⟨k, hk, hlimit⟩ := exists_overflowLimit_eq
  have hpos := Nat.two_pow_pos k
  calc overflowLimit < 2 ^ 54 * 2 ^ k := by
        rw [hlimit]
        omega
    _ = 2 ^ (54 + k) := (Nat.pow_add ..).symm
    _ ≤ 2 ^ (3 * n) := Nat.pow_le_pow_right (by decide) (by omega)
    _ = 8 ^ n := Nat.pow_mul ..
    _ ≤ 10 ^ n := Nat.pow_le_pow_left (by decide) n

/-- A decimal is read as the infinity of its sign iff it is at least the limit, and as a finite
number otherwise. The exponents that are decided without forming a power of ten are decided
in the same way. -/
theorem ofDecimal_cases (negative : Bool) (coefficient : Nat) (exponent : Int) :
    Overflows coefficient exponent ∧
        ofDecimal negative coefficient exponent = infinite negative ∨
      ¬Overflows coefficient exponent ∧
        ∃ m, ofDecimal negative coefficient exponent = finite negative m := by
  have hlimit := overflowLimit_pos
  have hten : ∀ n, 0 < 10 ^ n := fun n => Nat.pow_pos (by decide)
  unfold ofDecimal Overflows
  split
  -- A coefficient of zero is below any limit.
  case isTrue hzero =>
    refine .inr ⟨?_, _, rfl⟩
    rw [hzero, Nat.zero_mul, Nat.not_le]
    exact Nat.mul_pos hlimit (hten _)
  split
  -- A large exponent alone is over the limit, as the coefficient is at least one.
  case isFalse.isTrue hzero hlarge =>
    refine .inl ⟨?_, rfl⟩
    have hnegative : (-exponent).toNat = 0 := by omega
    rw [hnegative, Nat.pow_zero, Nat.mul_one]
    calc overflowLimit ≤ 10 ^ exponent.toNat :=
          Nat.le_of_lt (overflowLimit_lt_ten_pow (by omega))
      _ ≤ coefficient * 10 ^ exponent.toNat :=
          Nat.le_mul_of_pos_left _ (Nat.pos_of_ne_zero hzero)
  split
  -- A small exponent takes away more digits than the coefficient has.
  case isFalse.isFalse.isTrue hzero hlarge hsmall =>
    refine .inr ⟨?_, _, rfl⟩
    have hpositive : exponent.toNat = 0 := by omega
    rw [hpositive, Nat.pow_zero, Nat.mul_one, Nat.not_le]
    calc coefficient < 2 ^ (coefficient.log2 + 1) := Nat.lt_log2_self
      _ ≤ 10 ^ (coefficient.log2 + 1) := Nat.pow_le_pow_left (by decide) _
      _ ≤ 10 ^ (-exponent).toNat := Nat.pow_le_pow_right (by decide) (by omega)
      _ ≤ overflowLimit * 10 ^ (-exponent).toNat := Nat.le_mul_of_pos_left _ hlimit
  split
  -- In between the decimal is the quotient that it looks like, on either side of the point.
  case isTrue hexponent =>
    have hnegative : (-exponent).toNat = 0 := by omega
    rw [Nat.pow_eq, hnegative, Nat.pow_zero]
    exact ofRatio_cases negative Nat.zero_lt_one
  case isFalse hexponent =>
    have hpositive : exponent.toNat = 0 := by omega
    rw [Nat.pow_eq, hpositive, Nat.pow_zero, Nat.mul_one]
    exact ofRatio_cases negative (hten _)

end Binary64

end SeriesPlot
