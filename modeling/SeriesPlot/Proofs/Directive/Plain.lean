import SeriesPlot.Directive.Title
import SeriesPlot.Config.YRange
import SeriesPlot.Proofs.Text.Digits

/-!
# `SeriesPlot.Proofs.Directive.Plain`: the characters of numbers, times and columns

A directive is made of texts that come from outside, such as the names in a header, and of
numbers, times and columns. The latter are written with few characters (`Text.isPlain`), and
no quote and no line feed is one of them.

There is a lemma for each kind of thing that a directive writes: `Instant.isPlain_minuteText` for
the ends of the window, `YRange.isPlain_text` for the value range, `Binary64.isPlain_text` for the
numbers in it, and `Source.isPlain_tag` for the tags. Each goes the way that the text is put
together (`isPlain_append`), down to digits, signs and the few marks between them. The names of
infinities and of a NaN are plain too, so it makes no difference whether a number is finite.
-/

set_option autoImplicit false

namespace SeriesPlot

open SeriesPlot.Text

namespace Text

/-- The characters that numbers, times and columns are written with. -/
def isPlain (c : Char) : Bool :=
  c.isAlphanum || [' ', ',', '+', '-', '.', ':', '(', ')', '$', '/', '?'].contains c

/-- A text of these characters alone. -/
def IsPlain (text : List Char) : Prop := ∀ c ∈ text, isPlain c = true

-- Given in full, as an instance that tries all characters there are would fit as well.
instance (text : List Char) : Decidable (IsPlain text) :=
  List.decidableBAll (isPlain · = true) text

/-- The empty text is plain. -/
@[simp] theorem isPlain_nil : IsPlain [] := nofun

/-- A text is plain character by character. -/
@[simp] theorem isPlain_cons {c : Char} {text : List Char} :
    IsPlain (c :: text) ↔ isPlain c = true ∧ IsPlain text := List.forall_mem_cons

/-- Two texts are plain together iff both are. -/
@[simp] theorem isPlain_append {first second : List Char} :
    IsPlain (first ++ second) ↔ IsPlain first ∧ IsPlain second := List.forall_mem_append

/-- Any other character is not in the text. -/
theorem IsPlain.not_mem {text : List Char} (h : IsPlain text) {c : Char}
    (hc : isPlain c = false) : c ∉ text := by
  intro hmem
  rw [h c hmem] at hc
  exact nomatch hc

/-- Digits are plain. -/
theorem isPlain_of_isDigit {text : List Char} (h : ∀ c ∈ text, c.isDigit = true) :
    IsPlain text := by
  intro c hc
  simp [isPlain, Char.isAlphanum, h c hc]

/-- So is a number that is padded or cut to a width. -/
theorem isPlain_fixedDigits (width n : Nat) : IsPlain (fixedDigits width n) :=
  isPlain_of_isDigit fun _ => isDigit_of_mem_fixedDigits

/-- So is a number. -/
theorem isPlain_toDigits (n : Nat) : IsPlain (Nat.toDigits 10 n) :=
  isPlain_of_isDigit fun _ => Nat.isDigit_of_mem_toDigits (by decide) (by decide)

/-- So is a number that is padded to a width. -/
theorem isPlain_paddedDigits (width n : Nat) : IsPlain (paddedDigits width n) := by
  unfold paddedDigits
  split
  · exact isPlain_fixedDigits width n
  · exact isPlain_toDigits n

/-- So are any number of zeros. -/
theorem isPlain_zeros (count : Nat) : IsPlain (List.replicate count '0') := by
  intro c hc
  rw [List.eq_of_mem_replicate hc]
  decide

end Text

/-- A year is written with digits and a sign. -/
theorem isPlain_yearText (year : Int) : IsPlain (yearText year) := by
  unfold yearText
  split
  · exact isPlain_fixedDigits 4 _
  · refine isPlain_cons.mpr ⟨?_, isPlain_paddedDigits 4 _⟩
    split <;> decide

/-- A date is written with hyphens between its numbers. -/
theorem Date.isPlain_text (d : Date) : IsPlain d.text := by
  simp only [Date.text, isPlain_append, isPlain_cons]
  exact ⟨⟨isPlain_yearText _, by decide, isPlain_fixedDigits 2 _⟩, by decide,
    isPlain_fixedDigits 2 _⟩

/-- A point in time is written with a blank and a colon. -/
theorem Instant.isPlain_minuteText (t : Instant) : IsPlain t.minuteText.toList := by
  simp only [minuteText, String.toList_ofList, isPlain_append, isPlain_cons]
  exact ⟨⟨t.date.isPlain_text, by decide, isPlain_fixedDigits 2 _⟩, by decide,
    isPlain_fixedDigits 2 _⟩

/-- A decimal is written with digits and a point. -/
theorem DecimalPoint.isPlain_text (p : DecimalPoint) : IsPlain p.text := by
  unfold text
  dsimp only
  split
  · exact isPlain_append.mpr ⟨isPlain_toDigits _, isPlain_zeros _⟩
  · -- The point comes in between digits.
    have hpadded := isPlain_append.mpr
      ⟨isPlain_zeros ((-p.exponent).toNat + 1 - (Nat.toDigits 10 p.coefficient).length),
        isPlain_toDigits p.coefficient⟩
    refine isPlain_append.mpr ⟨fun c hc => ?_, isPlain_cons.mpr ⟨by decide, fun c hc => ?_⟩⟩
    · exact hpadded c (List.mem_of_mem_take hc)
    · exact hpadded c (List.mem_of_mem_drop hc)

/-- Any number is, and an infinity and a NaN are written with letters. -/
theorem Binary64.isPlain_text (x : Binary64) : IsPlain x.text.toList := by
  cases x with
  | nan =>
    show IsPlain "NaN".toList
    decide
  | infinite negative =>
    cases negative with
    | false =>
      show IsPlain "inf".toList
      decide
    | true =>
      show IsPlain "-inf".toList
      decide
  | finite negative m =>
    simp only [text, String.toList_ofList, isPlain_append]
    -- Before the digits there may be a minus.
    refine ⟨?_, m.shortest.isPlain_text⟩
    split
    · exact isPlain_cons.mpr ⟨by decide, isPlain_nil⟩
    · exact isPlain_nil

/-- A value range is written with a colon between its bounds. -/
theorem YRange.isPlain_text (r : YRange) : IsPlain r.text.toList := by
  have hside : ∀ bound, IsPlain (sideText bound).toList := by
    intro bound
    cases bound with
    | none => exact isPlain_nil
    | some x => exact x.isPlain_text
  simp only [text, String.toList_append, isPlain_append]
  refine ⟨⟨hside r.low, ?_⟩, hside r.high⟩
  show IsPlain ":".toList
  decide

/-- A column is written as a number. -/
theorem isPlain_toString (n : Nat) : IsPlain (toString n).toList := by
  have hdigits : (toString n).toList = Nat.toDigits 10 n := by simp
  rw [hdigits]
  exact isPlain_toDigits n

/-- Letters of sources are plain, and they stay so in upper case. -/
theorem isPlain_sourceLetter {letter : Char} (h : letter ∈ sourceLetters) :
    IsPlain letter.toString.toList ∧ IsPlain letter.toUpper.toString.toList := by
  have hall : IsPlain (sourceLetters ++ sourceLetters.map Char.toUpper) := by decide
  have hone : ∀ c : Char, isPlain c = true → IsPlain c.toString.toList := by
    intro c hc
    simpa using hc
  exact ⟨hone _ (hall _ (List.mem_append_left _ h)),
    hone _ (hall _ (List.mem_append_right _ (List.mem_map_of_mem h)))⟩

/-- The tag of a source is its letter in parentheses. -/
theorem Source.isPlain_tag {s : Source} (h : s.letter ∈ sourceLetters) :
    IsPlain s.tag.toList := by
  simp only [tag, String.toList_append, isPlain_append]
  exact ⟨⟨by decide, (isPlain_sourceLetter h).2⟩, by decide⟩

end SeriesPlot
