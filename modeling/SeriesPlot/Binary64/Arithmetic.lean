import SeriesPlot.Binary64

/-!
# `SeriesPlot.Binary64.Arithmetic`: operations and comparison

Products and quotients are exact rationals rounded once. Changing the sign is
exact, and rounding to whole numbers is exact on magnitudes, with the sign put
back afterwards, so it treats a number and its opposite alike.
-/

set_option autoImplicit false

namespace SeriesPlot.Binary64

/-- The same magnitude with the given sign. -/
def withSign (negative : Bool) : Binary64 → Binary64
  | nan => nan
  | infinite _ => infinite negative
  | finite _ m => finite negative m

/-- The opposite number; it changes the sign of zeros and infinities too. -/
def neg (x : Binary64) : Binary64 := x.withSign (!x.isNegative)

instance : Neg Binary64 := ⟨neg⟩

/-- The magnitude of a number, as a number. -/
def abs (x : Binary64) : Binary64 := x.withSign false

/-- The magnitude of `x` with the sign of `y`. -/
def copySign (x y : Binary64) : Binary64 := x.withSign y.isNegative

/-- The product, rounded. Zero times an infinity is a NaN. -/
def mul : Binary64 → Binary64 → Binary64
  | nan, _ => nan
  | _, nan => nan
  | infinite s, infinite t => infinite (s != t)
  | infinite s, finite t m => if m = .zero then nan else infinite (s != t)
  | finite s m, infinite t => if m = .zero then nan else infinite (s != t)
  | finite s m, finite t k =>
    ofRatio (s != t) (m.units * k.units) (Magnitude.unitsPerOne * Magnitude.unitsPerOne)

instance : Mul Binary64 := ⟨mul⟩

/-- The quotient, rounded. Zero over zero and infinity over infinity are NaNs. -/
def div : Binary64 → Binary64 → Binary64
  | nan, _ => nan
  | _, nan => nan
  | infinite _, infinite _ => nan
  | infinite s, finite t _ => infinite (s != t)
  | finite s _, infinite t => finite (s != t) .zero
  | finite s m, finite t k =>
    if k = .zero then
      if m = .zero then nan else infinite (s != t)
    else ofRatio (s != t) m.units k.units

instance : Div Binary64 := ⟨div⟩

/-- Comparison of values: the zeros are equal, and a NaN compares with nothing. -/
def le : Binary64 → Binary64 → Bool
  | nan, _ => false
  | _, nan => false
  | infinite true, _ => true
  | _, infinite false => true
  | infinite false, _ => false
  | _, infinite true => false
  | finite s m, finite t k => (finite s m).units ≤ (finite t k).units

instance : LE Binary64 := ⟨fun x y => x.le y = true⟩

instance (x y : Binary64) : Decidable (x ≤ y) := inferInstanceAs (Decidable (x.le y = true))

/-- Strict comparison of values; a NaN compares with nothing. -/
def lt (x y : Binary64) : Bool := x.le y && !y.le x

instance : LT Binary64 := ⟨fun x y => x.lt y = true⟩

instance (x y : Binary64) : Decidable (x < y) := inferInstanceAs (Decidable (x.lt y = true))

/-- A finite number above zero. -/
def isPositive (x : Binary64) : Bool := x.isFinite && (0 : Binary64).lt x

/-- The whole part of a magnitude. -/
def floorMagnitude (m : Magnitude) : Nat := m.units / Magnitude.unitsPerOne

/-- The whole number nearest to a magnitude, a half going up. -/
def roundMagnitude (m : Magnitude) : Nat :=
  (2 * m.units + Magnitude.unitsPerOne) / (2 * Magnitude.unitsPerOne)

/-- The number without its fraction. -/
def trunc : Binary64 → Binary64
  | finite negative m => ofRatio negative (floorMagnitude m) 1
  | x => x

/-- The nearest integer of a finite number, a half going away from zero. -/
def round? : Binary64 → Option Int
  | finite negative m => some (if negative then -(roundMagnitude m : Int) else roundMagnitude m)
  | _ => none

/-- The whole part of a number, kept between `low` and `high`; none for a NaN. -/
def clampWhole? (low high : Nat) : Binary64 → Option Nat
  | nan => none
  | infinite negative => some (if negative then low else high)
  | finite negative m => some (if negative then low else max low (min high (floorMagnitude m)))

end SeriesPlot.Binary64
