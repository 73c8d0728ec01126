import Mathlib.Algebra.Group.Nat.Defs
import Mathlib.Data.List.Induction
import SeriesPlot.Text.Digits

/-!
# `SeriesPlot.Proofs.Text.Digits`: reading the digits that are written

Numbers are written with `fixedDigits`, which pads or cuts to a width, or with `Nat.toDigits`, and
they are read with `digitsValue`.

* `digitsValue_fixedDigits`: reading gives the number back, up to the digits for which there is no
  room.
* `digitsValue_toDigits`, `digitsValue_lt`: so it does for `Nat.toDigits`, and how many digits there
  are bounds the number that they stand for.
* `paddedDigits_eq`: a number that needs no zeros in front is written with `fixedDigits` as well, so
  digits can be cut off at either end (`fixedDigits_add`) whatever the number of them.

The last group is for years, which are written with at least four digits and read four at a time.
-/

set_option autoImplicit false

namespace SeriesPlot.Text

/-- A digit is read back from its character. -/
theorem digitValue_digitChar (n : Nat) : digitValue (digitChar n) = n % 10 := by
  have hall : ∀ d < 10, digitValue (Char.ofNat ('0'.toNat + d)) = d := by decide
  exact hall (n % 10) (Nat.mod_lt _ (by decide))

/-- Its character is a digit. -/
theorem isDigit_digitChar (n : Nat) : (digitChar n).isDigit = true := by
  have hall : ∀ d < 10, (Char.ofNat ('0'.toNat + d)).isDigit = true := by decide
  exact hall (n % 10) (Nat.mod_lt _ (by decide))

/-- The digits of the core library are the same ones. -/
theorem digitChar_mod (n : Nat) : Nat.digitChar (n % 10) = digitChar n := by
  have hall : ∀ d < 10, Nat.digitChar d = Char.ofNat ('0'.toNat + d) := by decide
  exact hall (n % 10) (Nat.mod_lt _ (by decide))

/-- A digit at the end makes the value ten times as large and adds to it. -/
theorem digitsValue_concat (cs : List Char) (c : Char) :
    digitsValue (cs ++ [c]) = 10 * digitsValue cs + digitValue c := by
  simp [digitsValue]

/-- Of a number written with a fixed width the last digits are read back. -/
theorem digitsValue_fixedDigits (width n : Nat) :
    digitsValue (fixedDigits width n) = n % 10 ^ width := by
  induction width generalizing n with
  | zero => simp [fixedDigits, digitsValue, Nat.mod_one]
  | succ width ih =>
    rw [fixedDigits, digitsValue_concat, ih, digitValue_digitChar, Nat.pow_succ',
      Nat.mod_mul, Nat.add_comm]

/-- A fixed width is filled with digits. -/
theorem isDigit_of_mem_fixedDigits {width n : Nat} {c : Char} (h : c ∈ fixedDigits width n) :
    c.isDigit = true := by
  induction width generalizing n with
  | zero => exact nomatch h
  | succ width ih =>
    rcases List.mem_append.mp h with h | h
    · exact ih h
    · rw [List.mem_singleton.mp h]
      exact isDigit_digitChar n

/-- The last `extra` digits come after the others. -/
theorem fixedDigits_add (width extra n : Nat) :
    fixedDigits (width + extra) n =
      fixedDigits width (n / 10 ^ extra) ++ fixedDigits extra n := by
  induction extra generalizing n with
  | zero => simp [fixedDigits]
  | succ extra ih =>
    rw [← Nat.add_assoc, fixedDigits, fixedDigits, ih, Nat.div_div_eq_div_mul, Nat.pow_succ',
      List.append_assoc]

/-- A number is as many digits wide as the powers of ten around it say. -/
theorem toDigits_eq_fixedDigits {width n : Nat} (hlow : 10 ^ width ≤ n)
    (hhigh : n < 10 ^ (width + 1)) : Nat.toDigits 10 n = fixedDigits (width + 1) n := by
  induction width generalizing n with
  | zero =>
    have hdigit : n < 10 := hhigh
    have hn : n % 10 = n := Nat.mod_eq_of_lt hdigit
    rw [Nat.toDigits_of_lt_base hdigit, ← hn, digitChar_mod, hn]
    rfl
  | succ width ih =>
    -- Without its last digit the number is between powers one smaller.
    rw [Nat.pow_succ] at hlow hhigh
    have hpositive : 0 < 10 ^ width := Nat.pow_pos (by decide)
    rw [Nat.toDigits_of_base_le (by decide) (by omega), digitChar_mod,
      ih (by omega) (by omega)]
    rfl

/-- A number is read back from its digits. Core has this for its own reader of digits. -/
theorem digitsValue_toDigits (n : Nat) : digitsValue (Nat.toDigits 10 n) = n := by
  show Nat.ofDigitChars 10 (Nat.toDigits 10 n) 0 = n
  exact Nat.ofDigitChars_ten_toDigits

/-- A digit is less than ten. -/
theorem digitValue_lt {c : Char} (h : c.isDigit = true) : digitValue c < 10 := by
  have hbounds := Char.isDigit_iff_toNat.mp h
  have hnine : '9'.toNat = '0'.toNat + 9 := rfl
  unfold digitValue
  omega

/-- Leading zeros count as digits here, so this bounds the value and not the length. -/
theorem digitsValue_lt {cs : List Char} (h : ∀ c ∈ cs, c.isDigit = true) :
    digitsValue cs < 10 ^ cs.length := by
  induction cs using List.reverseRec with
  | nil => simp [digitsValue]
  | append_singleton cs c ih =>
    have hrest := ih fun d hd => h d (List.mem_append_left [c] hd)
    have hlast := digitValue_lt (h c (by simp))
    rw [digitsValue_concat, List.length_append, List.length_singleton, Nat.pow_succ]
    omega

/-- A number of more than `least` digits has no zeros in front. -/
theorem paddedDigits_eq {least width n : Nat} (hleast : least ≤ width) (hlow : 10 ^ width ≤ n)
    (hhigh : n < 10 ^ (width + 1)) : paddedDigits least n = fixedDigits (width + 1) n := by
  have hlong : ¬ n < Nat.pow 10 least :=
    Nat.not_lt.mpr (Nat.le_trans (Nat.pow_le_pow_right (by decide) hleast) hlow)
  rw [paddedDigits, if_neg hlong, toDigits_eq_fixedDigits hlow hhigh]

end SeriesPlot.Text
