import SeriesPlot.Proofs.Binary64.Overflow
import SeriesPlot.Proofs.Command.Payload
import SeriesPlot.Proofs.Config.YRange

/-!
# `SeriesPlot.Proofs.Command.ValueRange`: value ranges as words

A value range is typed as the letter `y`, a bound, one punctuation character and another bound,
each of which may be left out (`YRange.Typed`).

* `Intent.ofWord_eq_yRange_iff`: the words that are read as value ranges are those and no others,
  whatever the size of the bounds.
* `Shift.Numeral.value_cases`: a bound is read as the infinity of its sign if it is
  `2 ^ 1024 - 2 ^ 970` or more, and as a finite number otherwise.
* `YRange.Typed.isFinite_range_iff`: so the range that is read is finite iff no bound is too large.
* `Line.askedRanges`: the ranges that the words of a line ask for. A command has the last one
  (`Line.yRange_of_parse`), and a word that stands alone asks for its own range and for nothing
  else (`Line.askedRanges_word`).

In one direction a typed word is taken apart at its separator, which is no character of a number
(`Intent.yParts?_text`). In the other one the parts that the reader takes make up the text again
(`Intent.eq_of_yParts?`), and a part that is read as a number is a numeral, as it has neither a
plus nor the mark of an exponent (`Shift.Numeral.exists_of_numeral?`).
-/

set_option autoImplicit false

namespace SeriesPlot

open SeriesPlot.Text

namespace Shift.Numeral

/-! ### Numbers -/

/-- Whether a number is too large for a finite one, without regard to its sign. -/
def Overflows (n : Numeral) : Prop :=
  Binary64.overflowLimit * 10 ^ (n.fraction.getD []).length ≤ digitsValue n.digits

instance (n : Numeral) : Decidable n.Overflows := inferInstanceAs (Decidable (_ ≤ _))

/-- A number is read as the infinity of its sign if it is too large, and as a finite number
otherwise. -/
theorem value_cases (n : Numeral) :
    n.Overflows ∧ n.value = .infinite n.negative ∨ ¬n.Overflows ∧ n.value.isFinite = true := by
  have hcases := Binary64.ofDecimal_cases n.negative (digitsValue n.digits)
    (-((n.fraction.getD []).length : Int))
  unfold Binary64.Overflows at hcases
  rw [Int.neg_neg, Int.toNat_natCast, Int.toNat_neg_natCast, Nat.pow_zero, Nat.mul_one] at hcases
  rcases hcases with h | ⟨h, m, hm⟩
  · exact .inl h
  · refine .inr ⟨h, ?_⟩
    unfold value
    rw [hm]
    rfl

/-- A number is read as a finite one iff it is not too large. -/
theorem isFinite_value_iff (n : Numeral) : n.value.isFinite = true ↔ ¬n.Overflows := by
  rcases n.value_cases with ⟨hoverflows, hvalue⟩ | ⟨hmoderate, hfinite⟩
  · rw [hvalue]
    exact iff_of_false nofun fun hmoderate => hmoderate hoverflows
  · exact iff_of_true hfinite hmoderate

/-- What is read as a whole without a plus and an exponent is a numeral. -/
theorem exists_of_numeral? {text : List Char} {x : Binary64} (hplus : '+' ∉ text)
    (hlower : 'e' ∉ text) (hupper : 'E' ∉ text) (h : Binary64.numeral? text = some (x, [])) :
    ∃ n : Numeral, n.text = text ∧ n.value = x := by
  unfold Binary64.numeral? at h
  dsimp only at h
  -- The text is put together again from what each reader takes and leaves.
  have htext := Binary64.append_takeSign hplus
  generalize (Binary64.takeSign text).1 = negative at *
  generalize (Binary64.takeSign text).2 = unsigned at *
  have hunsigned := Binary64.append_takeDigits unsigned
  have hwhole := fun c => @Binary64.isDigit_of_mem_takeDigits unsigned c
  generalize (Binary64.takeDigits unsigned).1 = whole at *
  generalize (Binary64.takeDigits unsigned).2 = afterWhole at *
  obtain ⟨fraction, hdigits, hfraction, hafterWhole⟩ := Binary64.exists_takeFraction afterWhole
  rw [hdigits] at h
  generalize (Binary64.takeFraction afterWhole).2 = rest at *
  subst hafterWhole hunsigned htext
  have hexponent : Binary64.takeExponent rest = (0, rest) := Binary64.takeExponent_eq_zero
    (fun hmem => hlower (by simp [hmem])) fun hmem => hupper (by simp [hmem])
  rw [hexponent] at h
  split at h
  · cases h
  · rename_i hne
    obtain ⟨rfl, rfl⟩ := Prod.mk.inj (Option.some.inj h)
    refine ⟨⟨negative, whole, fraction, List.forall_mem_append.mpr ⟨hwhole, hfraction⟩, hne⟩,
      ?_, ?_⟩
    · rw [List.append_nil]
      rfl
    · unfold value
      rw [Int.zero_sub]
      rfl

/-- A text of the characters of numbers is read as a number iff it is a numeral. -/
theorem ofText?_eq_some_iff {text : List Char} (hchars : ∀ c ∈ text, isMagnitudeChar c = true)
    {x : Binary64} :
    Binary64.ofText? text = some x ↔ ∃ n : Numeral, n.text = text ∧ n.value = x := by
  -- Without a plus and a mark of an exponent, all that can be read is a numeral or a name.
  have hout : ∀ c : Char, isMagnitudeChar c = false → c ∉ text := by
    intro c hc hmem
    rw [hchars c hmem] at hc
    cases hc
  have hname : Binary64.ofName? text = none := Binary64.ofName?_eq_none fun c hc =>
    Intent.toLower_ne_of_isMagnitudeChar (hchars c hc)
  constructor
  · intro h
    unfold Binary64.ofText? at h
    split at h
    · rename_i hnumeral
      cases h
      exact exists_of_numeral? (hout '+' (by decide)) (hout 'e' (by decide))
        (hout 'E' (by decide)) hnumeral
    · rw [hname] at h
      cases h
  · rintro ⟨n, rfl, rfl⟩
    unfold Binary64.ofText?
    rw [n.numeral?_text]

end Shift.Numeral

/-- No character of a number is white space. -/
theorem isBlank_of_isMagnitudeChar {c : Char} (h : isMagnitudeChar c = true) :
    isBlank c = false := by
  simp only [isMagnitudeChar, Bool.or_eq_true, beq_iff_eq] at h
  rcases h with (hdigit | rfl) | rfl
  · obtain ⟨hzero, hnine⟩ := Char.isDigit_iff_toNat.mp hdigit
    exact isBlank_of_visible (Nat.le_trans (by decide) hzero) (Nat.le_trans hnine (by decide))
  · decide
  · decide

namespace YRange

/-- A value range as it is typed. -/
structure Typed where
  low : Option Shift.Numeral
  /-- The separator and the bound after it, if there is a separator. -/
  upper : Option (Char × Option Shift.Numeral)
  isPunctuation : ∀ side ∈ upper, Intent.isPunctuation side.1 = true
  isSeparator : ∀ side ∈ upper, isMagnitudeChar side.1 = false

namespace Typed

/-- The bound after the separator, if both are typed. -/
def high (t : Typed) : Option Shift.Numeral := t.upper.bind (·.2)

/-- The range that is typed. -/
def range (t : Typed) : YRange where
  low := t.low.map Shift.Numeral.value
  high := t.high.map Shift.Numeral.value

/-- The range is finite iff no bound is too large. -/
theorem isFinite_range_iff (t : Typed) :
    t.range.IsFinite ↔ (∀ n ∈ t.low, ¬n.Overflows) ∧ ∀ n ∈ t.high, ¬n.Overflows := by
  have hside : ∀ bound : Option Shift.Numeral,
      (∀ x ∈ bound.map Shift.Numeral.value, x.isFinite = true) ↔ ∀ n ∈ bound, ¬n.Overflows := by
    intro bound
    simp [Shift.Numeral.isFinite_value_iff]
  rw [← hside, ← hside]
  exact ⟨fun h => ⟨h.low, h.high⟩, fun ⟨hlow, hhigh⟩ => ⟨hlow, hhigh⟩⟩

/-- What is typed after the first bound. -/
def upperText (t : Typed) : List Char :=
  match t.upper with
  | some (separator, high) => separator :: boundText high
  | none => []

/-- What is typed after the letter. -/
def text (t : Typed) : List Char := boundText t.low ++ t.upperText

/-- The word that is typed. -/
def word (t : Typed) : List Char := 'y' :: t.text

/-- The word has its letter at least. -/
theorem word_ne_nil (t : Typed) : t.word ≠ [] := List.cons_ne_nil _ _

/-- There is no white space in it, whatever the separator is. -/
theorem isBlank_of_mem_word {t : Typed} {c : Char} (h : c ∈ t.word) : isBlank c = false := by
  have hbound : ∀ bound, c ∈ boundText bound → isBlank c = false := fun _ hmem =>
    isBlank_of_isMagnitudeChar (isMagnitudeChar_of_mem_boundText hmem)
  unfold word text upperText at h
  rcases List.mem_cons.mp h with rfl | h
  · decide
  rcases List.mem_append.mp h with h | h
  · exact hbound _ h
  · cases hupper : t.upper with
    | none => simp [hupper] at h
    | some side =>
      obtain ⟨separator, high⟩ := side
      rw [hupper] at h
      rcases List.mem_cons.mp h with rfl | h
      · -- White space is no punctuation, so the separator is none either.
        have hpunctuation := t.isPunctuation _ hupper
        simp only [Intent.isPunctuation, Bool.and_eq_true, decide_eq_true_eq] at hpunctuation
        exact isBlank_of_visible hpunctuation.1.1 hpunctuation.1.2
      · exact hbound _ h

/-- So trimming leaves the word as it is. -/
theorem trim_word (t : Typed) : trim t.word = t.word := trim_of_forall fun _ => isBlank_of_mem_word

/-- A line of the word alone is not blank. -/
theorem trim_toList_ne_nil (t : Typed) : trim (String.ofList t.word).toList ≠ [] := by
  rw [String.toList_ofList, trim_word]
  exact t.word_ne_nil

end Typed

end YRange

namespace Intent

open YRange (boundText isMagnitudeChar_of_mem_boundText)

/-- The reader takes the text apart at the separator. -/
theorem yParts?_text (t : YRange.Typed) :
    yParts? t.text = some (boundText t.low, boundText t.high) := by
  have hlow : ∀ c ∈ boundText t.low, isMagnitudeChar c = true := fun c =>
    isMagnitudeChar_of_mem_boundText
  unfold yParts? YRange.Typed.text YRange.Typed.upperText YRange.Typed.high
  rw [List.takeWhile_append_of_pos hlow, List.dropWhile_append_of_pos hlow]
  -- The first run stops at the separator, which is no character of a number.
  cases hupper : t.upper with
  | none => simp [boundText]
  | some side =>
    obtain ⟨separator, high⟩ := side
    have hseparator := t.isSeparator _ hupper
    have hpunctuation := t.isPunctuation _ hupper
    have hhigh : (boundText high).all isMagnitudeChar = true :=
      List.all_eq_true.mpr fun c => isMagnitudeChar_of_mem_boundText
    simp [hseparator, hpunctuation, hhigh]

/-- What is not taken apart at a separator has none. -/
theorem eq_of_yParts? {text low high : List Char} (h : yParts? text = some (low, high)) :
    text = low ∧ high = [] ∨
      ∃ separator, isPunctuation separator = true ∧ isMagnitudeChar separator = false ∧
        text = low ++ separator :: high := by
  have htext := List.takeWhile_append_dropWhile (p := isMagnitudeChar) (l := text)
  have hhead := List.head?_dropWhile_not isMagnitudeChar text
  unfold yParts? at h
  dsimp only at h
  -- Either the first run is all there is, or it stops at a character that has to be a separator.
  split at h
  · rename_i hrest
    cases h
    rw [hrest, List.append_nil] at htext
    exact .inl ⟨htext.symm, rfl⟩
  · rename_i separator after hrest
    split at h
    · rename_i hparts
      cases h
      rw [Bool.and_eq_true] at hparts
      rw [hrest] at htext hhead
      exact .inr ⟨separator, hparts.1, hhead, htext.symm⟩
    · cases h

/-- A bound is read from a numeral, or from nothing. -/
theorem yBound_eq_ok_iff {text : List Char} (hchars : ∀ c ∈ text, isMagnitudeChar c = true)
    {bound : Option Binary64} :
    yBound text = .ok bound ↔
      ∃ n, boundText n = text ∧ n.map Shift.Numeral.value = bound := by
  constructor
  · intro h
    unfold yBound at h
    split at h
    · rename_i hempty
      cases h
      exact ⟨none, (List.isEmpty_iff.mp hempty).symm, rfl⟩
    · split at h
      · rename_i hvalue
        cases h
        obtain ⟨n, hn, rfl⟩ := (Shift.Numeral.ofText?_eq_some_iff hchars).mp hvalue
        exact ⟨some n, hn, rfl⟩
      · cases h
  · rintro ⟨n, rfl, rfl⟩
    cases n with
    | none => rfl
    | some n =>
      -- A numeral has characters, so it is not taken for an open end.
      have hvalue := (Shift.Numeral.ofText?_eq_some_iff hchars).mpr ⟨n, rfl, rfl⟩
      unfold yBound
      rw [if_neg (by simpa [boundText] using n.text_ne_nil), hvalue]
      rfl

/-- A value range is read iff the text comes apart and both bounds can be read. -/
theorem ofYWord_eq_yRange_iff {word text : List Char} {r : YRange} :
    ofYWord word text = .yRange r ↔
      ∃ low high, yParts? text = some (low, high) ∧ yBound low = .ok r.low ∧
        yBound high = .ok r.high := by
  obtain ⟨lowBound, highBound⟩ := r
  unfold ofYWord
  cases yParts? text with
  | none => simp
  | some parts =>
    obtain ⟨low, high⟩ := parts
    -- Both sides ask for the same two readings in the same order.
    cases hlow : yBound low with
    | error fault => simp [hlow, bind, Except.bind]
    | ok x =>
      cases hhigh : yBound high with
      | error fault => simp [hlow, hhigh, bind, Except.bind]
      | ok y => simp [hlow, hhigh, bind, Except.bind, pure, Except.pure]

/-- A value range is read from no word that does not begin with its letter. -/
theorem ofWord_eq_yRange_iff_ofYWord {word : List Char} {r : YRange} :
    ofWord word = .yRange r ↔ ∃ text, word = 'y' :: text ∧ ofYWord word text = .yRange r := by
  constructor
  · intro h
    unfold ofWord at h
    split at h
    case h_2 text => exact ⟨text, rfl, h⟩
    -- The words without a mark of their own denote selections, times or nothing.
    case h_6 =>
      split at h
      · cases h
      · split at h <;> cases h
    all_goals cases h
  · rintro ⟨text, rfl, h⟩
    exact h

/-- The words that are read as value ranges are those that are typed as such. -/
theorem ofWord_eq_yRange_iff {word : List Char} {r : YRange} :
    ofWord word = .yRange r ↔ ∃ t : YRange.Typed, t.word = word ∧ t.range = r := by
  rw [ofWord_eq_yRange_iff_ofYWord]
  simp only [ofYWord_eq_yRange_iff]
  constructor
  · rintro ⟨text, rfl, lowText, highText, hparts, hlow, hhigh⟩
    obtain ⟨hlowChars, hhighChars⟩ := all_isMagnitudeChar_of_yParts? hparts
    obtain ⟨low, rfl, hlowValue⟩ := (yBound_eq_ok_iff (List.all_eq_true.mp hlowChars)).mp hlow
    obtain ⟨high, rfl, hhighValue⟩ :=
      (yBound_eq_ok_iff (List.all_eq_true.mp hhighChars)).mp hhigh
    have hrange : (⟨low.map Shift.Numeral.value, high.map Shift.Numeral.value⟩ : YRange) = r := by
      rw [hlowValue, hhighValue]
    -- A range without a separator is open upwards; otherwise the separator is kept as typed.
    rcases eq_of_yParts? hparts with ⟨rfl, hnone⟩ | ⟨separator, hpunctuation, hseparator, rfl⟩
    · rw [YRange.boundText_eq_nil_iff.mp hnone] at hrange
      refine ⟨⟨low, none, nofun, nofun⟩, ?_, hrange⟩
      simp [YRange.Typed.word, YRange.Typed.text, YRange.Typed.upperText]
    · refine ⟨⟨low, some (separator, high), ?_, ?_⟩, rfl, ?_⟩
      · rintro _ ⟨⟩
        exact hpunctuation
      · rintro _ ⟨⟩
        exact hseparator
      · exact hrange
  · rintro ⟨t, rfl, rfl⟩
    refine ⟨t.text, rfl, _, _, yParts?_text t, ?_, ?_⟩
    · exact (yBound_eq_ok_iff fun c => isMagnitudeChar_of_mem_boundText).mpr ⟨t.low, rfl, rfl⟩
    · exact (yBound_eq_ok_iff fun c => isMagnitudeChar_of_mem_boundText).mpr ⟨t.high, rfl, rfl⟩

end Intent

namespace Line

/-- The value ranges that the words of a line ask for, if the line is a command. -/
def askedRanges (line : String) : List YRange :=
  match parse line with
  | .command _ => (Intent.asked (trim line.toList)).filterMap Intent.yRange?
  | _ => []

/-- A command has the last value range that the words of its line ask for. -/
theorem yRange_of_parse {line : String} {c : Command} (h : parse line = .command c) :
    c.yRange = (askedRanges line).getLast? := by
  rw [(collects_of_parse h).yRange, askedRanges, h]

/-- A line that is no command asks for no range. -/
theorem askedRanges_of_parse_ne {line : String} (h : ∀ c, parse line ≠ .command c) :
    askedRanges line = [] := by
  unfold askedRanges
  split
  · exact absurd ‹_› (h _)
  · rfl

/-- The ranges that a line asks for are typed in its words. -/
theorem exists_typed_of_mem_askedRanges {line : String} {r : YRange}
    (h : r ∈ askedRanges line) :
    ∃ t : YRange.Typed, t.word ∈ words (trim line.toList) ∧ t.range = r := by
  unfold askedRanges at h
  split at h
  · obtain ⟨intent, hmem, hpayload⟩ := List.mem_filterMap.mp h
    obtain ⟨word, hword, hintent⟩ := Intent.exists_ofWord_of_mem_asked hmem
    cases intent <;> cases hpayload
    obtain ⟨t, rfl, hrange⟩ := Intent.ofWord_eq_yRange_iff.mp hintent
    exact ⟨t, hword, hrange⟩
  · cases h

/-- A line of the word alone asks for its range. -/
theorem asked_word (t : YRange.Typed) : Intent.asked t.word = [.yRange t.range] := by
  unfold Intent.asked
  rw [words_of_forall t.word_ne_nil fun _ => YRange.Typed.isBlank_of_mem_word,
    List.map_singleton, Intent.ofWord_eq_yRange_iff.mpr ⟨t, rfl, rfl⟩]
  rfl

/-- A value range that is typed alone is a command. -/
theorem parse_word (t : YRange.Typed) :
    parse (String.ofList t.word) = .command { yRange := some t.range } := by
  have hquit : String.ofList t.word ∉ quitTexts := by
    rw [mem_quitTexts_iff]
    simp [YRange.Typed.word]
  rw [parse_eq]
  dsimp only
  rw [String.toList_ofList, t.trim_word, asked_word, if_neg t.word_ne_nil, if_neg hquit,
    if_neg (by simp [Intent.startsUnknown])]
  rfl

/-- And for nothing else. -/
theorem askedRanges_word (t : YRange.Typed) :
    askedRanges (String.ofList t.word) = [t.range] := by
  unfold askedRanges
  rw [parse_word, String.toList_ofList, t.trim_word, asked_word]
  rfl

end Line

end SeriesPlot
