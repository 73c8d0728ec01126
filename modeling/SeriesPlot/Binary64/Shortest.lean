import SeriesPlot.Binary64
import SeriesPlot.Text.Digits

/-!
# `SeriesPlot.Binary64.Shortest`: writing numbers

A finite number is written with the fewest digits that still read back as the
same number, and of those with the nearest ones. It is found on decimal grids:
the numbers that round to a magnitude form an interval, and the coarsest grid
`10 ^ k` with a point in the interval gives the fewest digits, and of its points
there the nearest is taken. A magnitude halfway between two takes the upper one.

The text is positional, never with an exponent, and without a point if the
number is whole.
-/

set_option autoImplicit false

namespace SeriesPlot

open SeriesPlot.Text

/-- Reals that round to one magnitude, in quarters of a unit: from `low` to
`high`, ends included iff `closed`. -/
structure RoundingInterval where
  low : Nat
  value : Nat
  high : Nat
  closed : Bool

namespace Magnitude

/-- The reals that round to `m`: halfway to its two neighbours. Below a power of
two the neighbour is half as far away as above it. The ends belong to it iff the
significand is even, as ties go to the even significand. -/
def roundingInterval (m : Magnitude) : RoundingInterval :=
  let step := Nat.pow 2 m.exponent
  let below := if m.significand = Nat.pow 2 52 ∧ 0 < m.exponent then step else 2 * step
  { low := 4 * m.units - below
    value := 4 * m.units
    high := 4 * m.units + 2 * step
    closed := m.significand % 2 = 0 }

end Magnitude

/-- A multiple of a power of ten. -/
structure DecimalPoint where
  coefficient : Nat
  exponent : Int

namespace RoundingInterval

/-- Whether `num / den` quarter units lie in the interval. -/
def contains (i : RoundingInterval) (num den : Nat) : Bool :=
  if i.closed then i.low * den ≤ num && num ≤ i.high * den
  else i.low * den < num && num < i.high * den

/-- The multiple of `10 ^ k` in the interval that is nearest to its value, if
there is one; a tie goes up. If any multiple lies in the interval, then so does
one of the two around the value. -/
def pointOn? (i : RoundingInterval) (k : Int) : Option DecimalPoint :=
  -- one grid step is `step / den` quarter units
  let step := 4 * Magnitude.unitsPerOne * Nat.pow 10 k.toNat
  let den := Nat.pow 10 (-k).toNat
  let below := i.value * den / step
  let above := below + 1
  let belowFits := i.contains (below * step) den
  let aboveFits := i.contains (above * step) den
  let belowNearer := i.value * den - below * step < above * step - i.value * den
  if belowFits && (belowNearer || !aboveFits) then some ⟨below, k⟩
  else if aboveFits then some ⟨above, k⟩
  else none

/-- The first grid with a point in the interval, tried from `10 ^ k` downwards
through `count` grids. -/
def coarsestPoint? (i : RoundingInterval) (k : Int) : Nat → Option DecimalPoint
  | 0 => none
  | count + 1 =>
    match i.pointOn? k with
    | some p => some p
    | none => i.coarsestPoint? (k - 1) count

end RoundingInterval

namespace Magnitude

/-- The decimal with the fewest digits that reads back as `m`, nearest to it.
The grids from `10 ^ 309` to `10 ^ -324` suffice: the largest magnitude is below
the first and the last is finer than a unit. -/
def shortest (m : Magnitude) : DecimalPoint :=
  if m = zero then ⟨0, 0⟩
  else (m.roundingInterval.coarsestPoint? 309 640).getD ⟨0, 0⟩

end Magnitude

/-- The positional text of a decimal: zeros up to the point, and a point only if
digits follow it. -/
def DecimalPoint.text (p : DecimalPoint) : List Char :=
  let digits := Nat.toDigits 10 p.coefficient
  if 0 ≤ p.exponent then digits ++ List.replicate p.exponent.toNat '0'
  else
    let places := (-p.exponent).toNat
    let padded := List.replicate (places + 1 - digits.length) '0' ++ digits
    padded.take (padded.length - places) ++ '.' :: padded.drop (padded.length - places)

/-- The text of a number: the shortest decimal with its sign, zeros keeping
theirs, or the name of an infinity or NaN. -/
def Binary64.text : Binary64 → String
  | .nan => "NaN"
  | .infinite negative => if negative then "-inf" else "inf"
  | .finite negative m =>
    String.ofList ((if negative then ['-'] else []) ++ m.shortest.text)

end SeriesPlot
