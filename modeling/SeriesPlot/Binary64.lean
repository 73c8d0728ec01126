/-!
# `SeriesPlot.Binary64`: the numbers of the program

Every quantity that a user types or that a span of time is measured in is an
IEEE 754 binary64 number. They are modelled exactly: a finite number is a sign
and a whole number of units, one unit being `2 ^ -1074`, the smallest positive
number. Arithmetic computes the exact rational result and rounds it once, so
each operation is the nearest number to the true value, ties going to the even
significand.

* `Magnitude`: a nonnegative finite number, as a significand and an exponent
  that determine each other.
* `Magnitude.round?`: the magnitude nearest to a quotient of natural numbers,
  absent from the overflow limit on.
* `Binary64`: magnitudes with a sign, the two infinities, and one NaN.
-/

set_option autoImplicit false

namespace SeriesPlot

/-- The natural number nearest to `num / den`; of two equally near ones, the even one. -/
def nearestEven (num den : Nat) : Nat :=
  let quotient := num / den
  let remainder := num % den
  if 2 * remainder < den ∨ (2 * remainder = den ∧ quotient % 2 = 0) then quotient
  else quotient + 1

/-- Rounding to a natural number does not go below the whole part. -/
theorem div_le_nearestEven (num den : Nat) : num / den ≤ nearestEven num den := by
  unfold nearestEven
  dsimp only
  split <;> omega

/-- It does not go above the next natural number either. -/
theorem nearestEven_le_div_succ (num den : Nat) : nearestEven num den ≤ num / den + 1 := by
  unfold nearestEven
  dsimp only
  split <;> omega

/-- A nonnegative finite number: `significand · 2 ^ exponent` units of `2 ^ -1074`.

The significand has at most 53 bits, and all 53 of them unless the exponent is
the smallest, so that every number has exactly one representation. -/
structure Magnitude where
  significand : Nat
  exponent : Nat
  significand_lt : significand < Nat.pow 2 53
  full_of_exponent : exponent = 0 ∨ Nat.pow 2 52 ≤ significand
  exponent_le : exponent ≤ 2045
deriving DecidableEq

namespace Magnitude

/-- How many units make up the number one. -/
def unitsPerOne : Nat := Nat.pow 2 1074

/-- The exact value, counted in units. -/
def units (m : Magnitude) : Nat := m.significand * Nat.pow 2 m.exponent

/-- The magnitude zero. -/
def zero : Magnitude := ⟨0, 0, by decide, .inl rfl, by decide⟩

instance : Inhabited Magnitude := ⟨zero⟩

/-- The exponent at which a quotient of `q` whole units keeps at most 53 bits. -/
def exponentFor (q : Nat) : Nat := q.log2 - 52

/-- The exponent is large enough: at most 53 bits are left of the whole part. -/
theorem div_exponentFor_lt (q : Nat) : q / Nat.pow 2 (exponentFor q) < Nat.pow 2 53 := by
  rw [Nat.pow_eq, Nat.pow_eq, Nat.div_lt_iff_lt_mul (Nat.two_pow_pos _), ← Nat.pow_add]
  refine Nat.lt_of_lt_of_le Nat.lt_log2_self (Nat.pow_le_pow_right (by decide) ?_)
  unfold exponentFor
  omega

/-- It is not larger than needed: unless it is the smallest one, all 53 bits are left. -/
theorem le_div_exponentFor (q : Nat) (h : exponentFor q ≠ 0) :
    Nat.pow 2 52 ≤ q / Nat.pow 2 (exponentFor q) := by
  have hq : q ≠ 0 := by
    rintro rfl
    exact h (by simp [exponentFor])
  rw [Nat.pow_eq, Nat.pow_eq, Nat.le_div_iff_mul_le (Nat.two_pow_pos _), ← Nat.pow_add]
  refine Nat.le_trans (Nat.pow_le_pow_right (by decide) ?_) (Nat.log2_self_le hq)
  unfold exponentFor at h ⊢
  omega

/-- The significand of `num / den` units at the exponent of its whole part. -/
def significandFor (num den : Nat) : Nat :=
  nearestEven num (den * Nat.pow 2 (exponentFor (num / den)))

/-- Rounding can bring a significand up to the first number of 54 bits, and not further. -/
theorem significandFor_le (num den : Nat) : significandFor num den ≤ Nat.pow 2 53 := by
  refine Nat.le_trans (nearestEven_le_div_succ _ _) ?_
  rw [← Nat.div_div_eq_div_mul]
  exact div_exponentFor_lt _

/-- A rounded significand has all 53 bits too, unless the exponent is the smallest one. -/
theorem le_significandFor (num den : Nat) :
    exponentFor (num / den) = 0 ∨ Nat.pow 2 52 ≤ significandFor num den := by
  by_cases h : exponentFor (num / den) = 0
  · exact .inl h
  · refine .inr (Nat.le_trans (le_div_exponentFor _ h) ?_)
    rw [Nat.div_div_eq_div_mul]
    exact div_le_nearestEven _ _

/-- The magnitude nearest to `num / den` units, for a positive `den`. Rounding
up may fill a 54th bit, which moves the number to the next exponent. There is
none from `2 ^ 1024 - 2 ^ 970` on, where the nearest number would be too large. -/
def round? (num den : Nat) : Option Magnitude :=
  let exponent := exponentFor (num / den)
  if full : significandFor num den = Nat.pow 2 53 then
    if bound : exponent + 1 ≤ 2045 then
      some ⟨Nat.pow 2 52, exponent + 1, by decide, .inr (Nat.le_refl _), bound⟩
    else none
  else
    if bound : exponent ≤ 2045 then
      some ⟨significandFor num den, exponent,
        Nat.lt_of_le_of_ne (significandFor_le num den) full, le_significandFor num den, bound⟩
    else none

end Magnitude

/-- A binary64 number. Both zeros are `finite`, told apart by their sign; NaNs
are not told apart. Equality is equality of representations, so `nan = nan`
and the two zeros differ; comparison of values is `≤` and `<`. -/
inductive Binary64 where
  | nan
  | infinite (negative : Bool)
  | finite (negative : Bool) (magnitude : Magnitude)
deriving DecidableEq, Inhabited

namespace Binary64

/-- The number nearest to `num / den` with the given sign, for a positive
`den`; the infinity of that sign if the quotient is too large. -/
def ofRatio (negative : Bool) (num den : Nat) : Binary64 :=
  match Magnitude.round? (num * Magnitude.unitsPerOne) den with
  | some m => finite negative m
  | none => infinite negative

/-- The number nearest to an integer; zero is the positive zero. -/
def ofInt (i : Int) : Binary64 := ofRatio (i < 0) i.natAbs 1

/-- The number nearest to `coefficient · 10 ^ exponent`, with the given sign.

Exponents far outside the range of the format are decided without forming the
power of ten: at `10 ^ 400` every nonzero coefficient has overflowed, and below
`10 ^ -400` divided by the coefficient's size it has vanished. -/
def ofDecimal (negative : Bool) (coefficient : Nat) (exponent : Int) : Binary64 :=
  if coefficient = 0 then finite negative .zero
  else if exponent > 400 then infinite negative
  else if exponent < -(400 + coefficient.log2) then finite negative .zero
  else if exponent ≥ 0 then ofRatio negative (coefficient * Nat.pow 10 exponent.toNat) 1
  else ofRatio negative coefficient (Nat.pow 10 (-exponent).toNat)

instance (n : Nat) : OfNat Binary64 n := ⟨ofRatio false n 1⟩

instance : OfScientific Binary64 where
  ofScientific coefficient isNegative exponent :=
    ofDecimal false coefficient (if isNegative then -exponent else exponent)

/-- Neither an infinity nor a NaN. -/
def isFinite : Binary64 → Bool
  | finite _ _ => true
  | _ => false

/-- The exact value of a finite number, counted in units; zero for the others. -/
def units : Binary64 → Int
  | finite negative m => if negative then -(m.units : Int) else m.units
  | _ => 0

/-- The sign bit; a NaN counts as positive. -/
def isNegative : Binary64 → Bool
  | nan => false
  | infinite negative => negative
  | finite negative _ => negative

end Binary64

end SeriesPlot
