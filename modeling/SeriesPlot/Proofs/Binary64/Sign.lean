import SeriesPlot.Binary64.Arithmetic
import SeriesPlot.Proofs.Binary64.Numeral

/-!
# `SeriesPlot.Proofs.Binary64.Sign`: arithmetic and the sign

Rounding looks at the magnitude of a result and puts the sign back afterwards. So a sign can be
changed before an operation or after it, with the same result to the last bit:

* `neg_mul`, `mul_neg`, `mul_comm`: for products, infinities and NaNs included.
* `neg_div`: for quotients, where a zero divisor decides by its sign.
* `round?_neg`: a number and its opposite are rounded to opposite integers, as a half goes away
  from zero on either side of it.

This is what makes opposite moves of the window cancel exactly although each of them is rounded.
Each theorem is a case analysis over the kinds of numbers, as the definitions are.
-/

set_option autoImplicit false

namespace SeriesPlot.Binary64

/-- There is one NaN, so it is its own opposite. -/
@[simp] theorem neg_nan : -nan = nan := rfl

/-- The opposite of an infinity is the other one. -/
@[simp] theorem neg_infinite (negative : Bool) : -infinite negative = infinite (!negative) := rfl

/-- The opposite of a finite number has the same magnitude. -/
@[simp] theorem neg_finite (negative : Bool) (m : Magnitude) :
    -finite negative m = finite (!negative) m := rfl

/-- The opposite sign makes the opposite of a rounded quotient. -/
theorem ofRatio_not (negative : Bool) (num den : Nat) :
    ofRatio (!negative) num den = -ofRatio negative num den := by
  rw [ofRatio_eq]
  dsimp only
  generalize Magnitude.round? (num * Magnitude.unitsPerOne) den = rounded
  cases rounded with
  | some m => rfl
  | none => rfl

/-- The product of an opposite number is the opposite of the product. -/
theorem neg_mul (x y : Binary64) : -x * y = -(x * y) := by
  show mul (-x) y = -mul x y
  -- A NaN stays one; otherwise the sign of the product is the xor of the signs, by kind of
  -- number.
  cases x with
  | nan => rfl
  | infinite s =>
    cases y with
    | nan => rfl
    | infinite t => simp [mul]
    | finite t k =>
      rw [neg_infinite]
      unfold mul
      dsimp only
      split <;> simp
  | finite s m =>
    cases y with
    | nan => rfl
    | infinite t =>
      rw [neg_finite]
      unfold mul
      dsimp only
      split <;> simp
    | finite t k =>
      rw [neg_finite]
      unfold mul
      dsimp only
      rw [← ofRatio_not]
      cases s <;> cases t <;> rfl

/-- A product does not depend on the order of its factors. -/
theorem mul_comm (x y : Binary64) : x * y = y * x := by
  show mul x y = mul y x
  -- By kind of number: the signs commute in each, and the units of two finite numbers do.
  cases x with
  | nan => cases y <;> rfl
  | infinite s =>
    cases y with
    | nan => rfl
    | infinite t => rw [mul, mul, bne_comm]
    | finite t k => rw [mul, mul, bne_comm]
  | finite s m =>
    cases y with
    | nan => rfl
    | infinite t => rw [mul, mul, bne_comm]
    | finite t k => rw [mul, mul, bne_comm, Nat.mul_comm m.units]

/-- The sign of the second factor can be changed after the product. -/
theorem mul_neg (x y : Binary64) : x * -y = -(x * y) := by
  rw [mul_comm, neg_mul, mul_comm]

/-- The sign of a dividend can be changed after the quotient. -/
theorem neg_div (x y : Binary64) : -x / y = -(x / y) := by
  show div (-x) y = -div x y
  -- By kind of number, as for a product; a zero divisor has a case of its own.
  cases x with
  | nan => rfl
  | infinite s =>
    cases y with
    | nan => rfl
    | infinite t => rfl
    | finite t k => simp [div]
  | finite s m =>
    cases y with
    | nan => rfl
    | infinite t => simp [div]
    | finite t k =>
      rw [neg_finite]
      unfold div
      dsimp only
      split
      · split <;> simp
      · rw [← ofRatio_not]
        cases s <;> cases t <;> rfl

/-- A half goes away from zero on either side of it. -/
theorem round?_neg (x : Binary64) : (-x).round? = x.round?.map fun n => -n := by
  cases x with
  | nan => rfl
  | infinite s => rfl
  | finite s m => cases s <;> simp [round?]

end SeriesPlot.Binary64
