import SeriesPlot.Binary64

/-!
# `SeriesPlot.Binary64.Bits`: the 64-bit encoding

The interchange form of a number: a sign bit, an 11-bit exponent field and a
52-bit fraction. A significand with its 53rd bit set carries into the exponent
field, so one sum encodes zeros, subnormal and normal numbers alike.
-/

set_option autoImplicit false

namespace SeriesPlot.Binary64

/-- The exponent field of all ones, which marks infinities and NaNs. -/
def specialField : Nat := 2047

/-- The sign bit in its place, the highest one. -/
private def signBit (negative : Bool) : Nat := if negative then Nat.pow 2 63 else 0

/-- The encoding of a number. Every NaN is encoded as the positive quiet one. -/
def toBits : Binary64 → Nat
  | nan => specialField * Nat.pow 2 52 + Nat.pow 2 51
  | infinite negative => signBit negative + specialField * Nat.pow 2 52
  | finite negative m => signBit negative + m.exponent * Nat.pow 2 52 + m.significand

/-- The number that the low 64 bits of `bits` encode. -/
def ofBits (bits : Nat) : Binary64 :=
  let negative := bits / Nat.pow 2 63 % 2 = 1
  let field := bits / Nat.pow 2 52 % Nat.pow 2 11
  let fraction := bits % Nat.pow 2 52
  have fraction_lt : fraction < Nat.pow 2 52 := Nat.mod_lt _ (by decide)
  if special : 2047 ≤ field then
    if fraction = 0 then infinite negative else nan
  else if field = 0 then
    finite negative ⟨fraction, 0, Nat.lt_trans fraction_lt (by decide), .inl rfl,
      Magnitude.zero.exponent_le⟩
  else
    finite negative ⟨Nat.pow 2 52 + fraction, field - 1,
      Nat.lt_of_lt_of_le (Nat.add_lt_add_left fraction_lt _) (by decide),
      .inr (Nat.le_add_right _ _), by omega⟩

end SeriesPlot.Binary64
