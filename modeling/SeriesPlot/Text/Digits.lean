/-!
# `SeriesPlot.Text.Digits`: decimal digits

Reading a run of ASCII digits as a number and writing a number with a fixed
count of digits. Only the ten ASCII digits count as digits anywhere in the
program; a digit of another script is an ordinary character.
-/

set_option autoImplicit false

namespace SeriesPlot.Text

/-- The number that one ASCII digit stands for. -/
def digitValue (c : Char) : Nat := c.toNat - '0'.toNat

/-- The character of a one-digit number; only the last decimal digit of `n` counts. -/
def digitChar (n : Nat) : Char := Char.ofNat ('0'.toNat + n % 10)

/-- The number that a run of digits stands for, most significant digit first. -/
def digitsValue (cs : List Char) : Nat :=
  cs.foldl (fun n c => 10 * n + digitValue c) 0

/-- The last `width` decimal digits of `n`, padded with zeros on the left. -/
def fixedDigits : Nat → Nat → List Char
  | 0, _ => []
  | width + 1, n => fixedDigits width (n / 10) ++ [digitChar n]

/-- `n` in decimal with at least `width` digits. -/
def paddedDigits (width n : Nat) : List Char :=
  if n < Nat.pow 10 width then fixedDigits width n else Nat.toDigits 10 n

/-- There are as many digits as asked for, however large the number is. -/
@[simp] theorem length_fixedDigits (width n : Nat) : (fixedDigits width n).length = width := by
  induction width generalizing n with
  | zero => rfl
  | succ w ih => simp [fixedDigits, ih]

end SeriesPlot.Text
