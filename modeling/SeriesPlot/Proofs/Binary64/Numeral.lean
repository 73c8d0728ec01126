import SeriesPlot.Binary64.Numeral

/-!
# `SeriesPlot.Proofs.Binary64.Numeral`: what is read as a number

`ofText?` takes a sign, the digits before and after a point and an exponent from the front of a
text, one part after the other, and rounds the decimal that they make up. Where that fails it
tries the names of the infinities and of a NaN. The theorems say what can come of this.

* `ofDecimal_ne_nan`, `ne_nan_of_numeral?`: rounding a decimal gives a finite number or an
  infinity, so a numeral never stands for a NaN.
* `ofName?_eq_none`, `ofText?_ne_nan`: all names have the letter `n`. A text without that letter
  is a numeral or nothing, and in both cases no NaN.
* `append_takeSign`, `append_takeDigits`, `exists_takeFraction`, `takeExponent_eq_zero`: what is
  taken from the front of a text and what is left make up the text again, so that the text can be
  recovered from the parts that were read.

The last group is what `Proofs/Command/ValueRange.lean` takes a word apart with. None of these
lemmas computes with a number of units, since the one of `unitsPerOne` is too large to form.
-/

set_option autoImplicit false

namespace SeriesPlot.Binary64

/-- The definition of `ofRatio`, as an equation of functions. Applied to arguments, it
would be checked by rounding a multiple of `unitsPerOne`, which is not feasible. -/
theorem ofRatio_eq : ofRatio = fun negative num den =>
    match Magnitude.round? (num * Magnitude.unitsPerOne) den with
    | some m => finite negative m
    | none => infinite negative := by
  delta ofRatio
  rfl

/-- A quotient is rounded to a finite number or to an infinity. -/
theorem ofRatio_ne_nan (negative : Bool) (num den : Nat) : ofRatio negative num den ≠ nan := by
  rw [ofRatio_eq]
  dsimp only
  generalize Magnitude.round? (num * Magnitude.unitsPerOne) den = rounded
  cases rounded with
  | some m => exact nofun
  | none => exact nofun

/-- The natural numbers are rounded quotients. -/
theorem ofNat_ne_nan (n : Nat) : (OfNat.ofNat n : Binary64) ≠ nan := ofRatio_ne_nan false n 1

/-- A decimal is zero, a rounded quotient or an infinity, whatever its exponent. -/
theorem ofDecimal_ne_nan (negative : Bool) (coefficient : Nat) (exponent : Int) :
    ofDecimal negative coefficient exponent ≠ nan := by
  unfold ofDecimal
  split
  · exact nofun
  split
  · exact nofun
  split
  · exact nofun
  split
  · exact ofRatio_ne_nan _ _ _
  · exact ofRatio_ne_nan _ _ _

/-- What is read from digits is a decimal, so it is not a NaN. -/
theorem ne_nan_of_numeral? {text rest : List Char} {x : Binary64}
    (h : numeral? text = some (x, rest)) : x ≠ nan := by
  unfold numeral? at h
  dsimp only at h
  split at h
  · cases h
  · cases h
    exact ofDecimal_ne_nan _ _ _

/-- What follows a sign is the end of the text. -/
theorem takeSign_suffix (text : List Char) : (takeSign text).2 <:+ text := by
  unfold takeSign
  split
  · exact List.suffix_cons _ _
  · exact List.suffix_cons _ _
  · exact List.suffix_refl _

/-- All names have the letter `n`. -/
theorem ofName?_eq_none {text : List Char} (h : ∀ c ∈ text, c.toLower ≠ 'n') :
    ofName? text = none := by
  have hnot : 'n' ∉ (takeSign text).2.map Char.toLower := by
    intro hmem
    obtain ⟨c, hc, hn⟩ := List.mem_map.mp hmem
    exact h c ((takeSign_suffix text).subset hc) hn
  have hname : ∀ name : String, 'n' ∈ name.toList →
      String.ofList ((takeSign text).2.map Char.toLower) ≠ name := by
    rintro name hmem rfl
    rw [String.toList_ofList] at hmem
    exact hnot hmem
  -- The names in question are `nan`, `infinity` and `inf`.
  unfold ofName?
  dsimp only
  rw [if_neg (not_or_intro (hname _ (by decide)) (hname _ (by decide))),
    if_neg (hname _ (by decide))]

/-- A text without the letter that the name of a NaN begins with is not read as one. -/
theorem ofText?_ne_nan {text : List Char} (h : ∀ c ∈ text, c.toLower ≠ 'n') :
    ofText? text ≠ some nan := by
  intro hnan
  unfold ofText? at hnan
  split at hnan
  · rename_i hnumeral
    exact ne_nan_of_numeral? hnumeral (Option.some.inj hnan)
  · rw [ofName?_eq_none h] at hnan
    cases hnan

/-! ### The parts of a numeral -/

/-- A minus sign that is taken stands at the front of the text. A plus sign would be lost. -/
theorem append_takeSign {text : List Char} (h : '+' ∉ text) :
    (if (takeSign text).1 then ['-'] else []) ++ (takeSign text).2 = text := by
  unfold takeSign
  split
  · rfl
  · exact absurd List.mem_cons_self h
  · rfl

/-- The digits that are taken stand at the front of the text. -/
theorem append_takeDigits (text : List Char) : (takeDigits text).1 ++ (takeDigits text).2 = text :=
  List.takeWhile_append_dropWhile

/-- Nothing but digits is taken. -/
theorem isDigit_of_mem_takeDigits {text : List Char} {c : Char} (h : c ∈ (takeDigits text).1) :
    c.isDigit = true :=
  List.all_eq_true.mp List.all_takeWhile c h

/-- The digits of a fraction come after a point, which there need not be. -/
theorem exists_takeFraction (text : List Char) :
    ∃ fraction : Option (List Char), (takeFraction text).1 = fraction.getD [] ∧
      (∀ c ∈ fraction.getD [], c.isDigit = true) ∧
      text = (match fraction with
        | some digits => '.' :: digits
        | none => []) ++ (takeFraction text).2 := by
  unfold takeFraction
  split
  · rename_i rest
    refine ⟨some (takeDigits rest).1, rfl, fun _ => isDigit_of_mem_takeDigits, ?_⟩
    rw [List.cons_append, append_takeDigits]
  · exact ⟨none, rfl, nofun, rfl⟩

/-- Only a letter begins an exponent. -/
theorem takeExponent_eq_zero {text : List Char} (hlower : 'e' ∉ text) (hupper : 'E' ∉ text) :
    takeExponent text = (0, text) := by
  cases text with
  | nil => rfl
  | cons mark rest =>
    have hmark : ¬(mark = 'e' ∨ mark = 'E') := by
      rintro (rfl | rfl)
      · exact hlower List.mem_cons_self
      · exact hupper List.mem_cons_self
    unfold takeExponent
    exact if_neg fun h => hmark h.1

end SeriesPlot.Binary64
