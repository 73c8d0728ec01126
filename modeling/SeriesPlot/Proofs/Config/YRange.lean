import SeriesPlot.Proofs.Command.Parts
import SeriesPlot.Proofs.Text.Fields

/-!
# `SeriesPlot.Proofs.Config.YRange`: value ranges as they are written

A value range is written as its bounds around a colon, each of them as a number or not at all.

* `Binary64.exists_numeral_of_isFinite`: a finite number is written as a decimal numeral.
* `Binary64.text_mem_names`: any other number is written with a name, which has letters in it.
* `YRange.isOfNumerals_text_iff`: neither has a colon, so the two sides of a written range can be
  told apart, and both are numerals or empty iff the bounds are finite.

`YRange.IsOfNumerals` is said of a text alone, so it is what a plotter that knows no names of
infinities can make of it.
-/

set_option autoImplicit false

namespace SeriesPlot

open SeriesPlot.Text

/-- A decimal is written as digits, with a point among them or not. -/
theorem DecimalPoint.exists_numeral (p : DecimalPoint) (negative : Bool) :
    ∃ n : Shift.Numeral, n.text = (if negative then ['-'] else []) ++ p.text := by
  have hdigits : ∀ c ∈ Nat.toDigits 10 p.coefficient, c.isDigit = true := fun _ =>
    Nat.isDigit_of_mem_toDigits (by decide) (by decide)
  have hzeros : ∀ count, ∀ c ∈ List.replicate count '0', c.isDigit = true := by
    intro count c hc
    rw [List.eq_of_mem_replicate hc]
    decide
  have hne : Nat.toDigits 10 p.coefficient ≠ [] := Nat.toDigits_ne_nil
  unfold DecimalPoint.text
  dsimp only
  generalize Nat.toDigits 10 p.coefficient = digits at *
  by_cases hexponent : 0 ≤ p.exponent
  · rw [if_pos hexponent]
    refine ⟨⟨negative, digits ++ List.replicate p.exponent.toNat '0', none, ?_, ?_⟩, ?_⟩
    · simpa using List.forall_mem_append.mpr ⟨hdigits, hzeros p.exponent.toNat⟩
    · simp [hne]
    · simp [Shift.Numeral.text, Shift.Numeral.unsignedText]
  · rw [if_neg hexponent]
    -- The point cuts the padded digits in two.
    have hpadded := List.forall_mem_append.mpr
      ⟨hzeros ((-p.exponent).toNat + 1 - digits.length), hdigits⟩
    have hpaddedNe := List.append_ne_nil_of_right_ne_nil
      (List.replicate ((-p.exponent).toNat + 1 - digits.length) '0') hne
    generalize List.replicate ((-p.exponent).toNat + 1 - digits.length) '0' ++ digits
      = padded at *
    generalize padded.length - (-p.exponent).toNat = count
    refine ⟨⟨negative, padded.take count, some (padded.drop count), ?_, ?_⟩, rfl⟩
    · rwa [Option.getD_some, List.take_append_drop]
    · rwa [Option.getD_some, List.take_append_drop]

namespace Binary64

/-- The names of the numbers that are not finite. -/
def names : List String := ["NaN", "inf", "-inf"]

/-- What is not finite is written with a name. -/
theorem text_mem_names {x : Binary64} (h : x.isFinite = false) : x.text ∈ names := by
  cases x with
  | nan => exact List.mem_cons_self
  | infinite negative =>
    show (if negative then "-inf" else "inf") ∈ names
    cases negative <;> decide
  | finite negative m => cases h

/-- What is finite is written as a numeral. -/
theorem exists_numeral_of_isFinite {x : Binary64} (h : x.isFinite = true) :
    ∃ n : Shift.Numeral, n.text = x.text.toList := by
  cases x with
  | nan => cases h
  | infinite negative => cases h
  | finite negative m =>
    obtain ⟨n, hn⟩ := m.shortest.exists_numeral negative
    exact ⟨n, hn.trans String.toList_ofList.symm⟩

end Binary64

namespace YRange

/-- A bound as it is written, or nothing. -/
def boundText (bound : Option Shift.Numeral) : List Char := (bound.map Shift.Numeral.text).getD []

/-- A text of numerals around one colon, each of which may be left out. -/
def IsOfNumerals (text : List Char) : Prop :=
  ∃ low high, text = boundText low ++ ':' :: boundText high

/-- The bounds are finite, as far as there are any. -/
structure IsFinite (r : YRange) : Prop where
  low : ∀ x ∈ r.low, x.isFinite = true
  high : ∀ x ∈ r.high, x.isFinite = true

/-- Nothing is written for a bound iff there is none. -/
theorem boundText_eq_nil_iff {bound : Option Shift.Numeral} :
    boundText bound = [] ↔ bound = none := by
  cases bound with
  | none => exact iff_of_true rfl rfl
  | some n => exact iff_of_false n.text_ne_nil nofun

/-- A bound is made of characters of numbers. -/
theorem isMagnitudeChar_of_mem_boundText {bound : Option Shift.Numeral} {c : Char}
    (h : c ∈ boundText bound) : isMagnitudeChar c = true := by
  cases bound with
  | none => cases h
  | some n => exact Shift.Numeral.isMagnitudeChar_of_mem_text h

/-- One side of a range is written as a numeral, or not at all, iff its bound is finite. -/
theorem exists_boundText_iff (bound : Option Binary64) :
    (∃ n, boundText n = (sideText bound).toList) ↔ ∀ x ∈ bound, x.isFinite = true := by
  constructor
  · rintro ⟨n, hn⟩ x rfl
    rw [← Bool.not_eq_false]
    intro hfinite
    -- A name has a letter that no numeral has.
    have hletter : ∀ name ∈ Binary64.names, name.toList.all isMagnitudeChar = false := by decide
    have hall : x.text.toList.all isMagnitudeChar = true :=
      List.all_eq_true.mpr fun c hc => isMagnitudeChar_of_mem_boundText (hn ▸ hc)
    rw [hletter _ (Binary64.text_mem_names hfinite)] at hall
    cases hall
  · intro h
    cases bound with
    | none => exact ⟨none, rfl⟩
    | some x =>
      obtain ⟨n, hn⟩ := Binary64.exists_numeral_of_isFinite (h x rfl)
      exact ⟨some n, hn⟩

/-- There is no colon in a numeral. -/
theorem colon_not_mem_boundText (bound : Option Shift.Numeral) : ':' ∉ boundText bound :=
  fun hmem => absurd (isMagnitudeChar_of_mem_boundText hmem) (by decide)

/-- There is none in a written bound, finite or not. -/
theorem colon_not_mem_sideText (bound : Option Binary64) : ':' ∉ (sideText bound).toList := by
  have hnames : ∀ name ∈ Binary64.names, ':' ∉ name.toList := by decide
  cases bound with
  | none => exact List.not_mem_nil
  | some x =>
    show ':' ∉ x.text.toList
    cases hfinite : x.isFinite with
    | true =>
      obtain ⟨n, hn⟩ := Binary64.exists_numeral_of_isFinite hfinite
      rw [← hn]
      exact colon_not_mem_boundText (some n)
    | false => exact hnames _ (Binary64.text_mem_names hfinite)

/-- A range is written as its bounds around a colon. -/
theorem toList_text (r : YRange) :
    r.text.toList = (sideText r.low).toList ++ ':' :: (sideText r.high).toList := by
  simp [text]

/-- A value range is written with numerals iff its bounds are finite. -/
theorem isOfNumerals_text_iff (r : YRange) : IsOfNumerals r.text.toList ↔ r.IsFinite := by
  rw [toList_text]
  constructor
  · rintro ⟨low, high, htext⟩
    -- Both texts are cut at their first colon.
    have hcut := cutAt?_append (colon_not_mem_sideText r.low) (sideText r.high).toList
    rw [htext, cutAt?_append (colon_not_mem_boundText low)] at hcut
    obtain ⟨hlow, hhigh⟩ := Prod.mk.inj (Option.some.inj hcut)
    exact ⟨(exists_boundText_iff r.low).mp ⟨low, hlow⟩,
      (exists_boundText_iff r.high).mp ⟨high, hhigh⟩⟩
  · rintro ⟨hlow, hhigh⟩
    obtain ⟨low, hlow⟩ := (exists_boundText_iff r.low).mpr hlow
    obtain ⟨high, hhigh⟩ := (exists_boundText_iff r.high).mpr hhigh
    exact ⟨low, high, by rw [hlow, hhigh]⟩

end YRange

end SeriesPlot
