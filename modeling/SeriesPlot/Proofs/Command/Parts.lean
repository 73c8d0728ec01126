import Mathlib.Data.List.Basic
import Mathlib.Data.List.TakeWhile
import SeriesPlot.Proofs.Command.Intent
import SeriesPlot.Proofs.Text.Words

/-!
# `SeriesPlot.Proofs.Command.Parts`: a relative change and the parts it is typed from

A relative change is typed as a bar, arrows, a number, a unit and another bar, each of which
may be left out. `Shift.Parts` are such parts, `Shift.Parts.text` is the word they make up, and
`Shift.Parts.shift` is the change they stand for. Reading looks for every part in the whole word.
No part has a character that is looked for in another one, so each search finds its own part
(`filter_isArrow_text`, `intensityOf_text`, `magnitudeOf_text`, `findSome?_text`, `pinOf_text`).

* `shiftParse?_text`: the parts are read back from the word.
* `typed_parts_read_back`: so does the reading of time tokens, and the reading of words as far
  as the word is not of a kind that is tried before. These are the numbers of columns, the letter
  of the year with a bar, and what begins with a minus.

The first section is about the classes of characters and how they exclude each other. The second
one finds each of the parts in the word, and the third one puts them together. The last one goes
through the kinds of words that are tried before relative changes: most of them begin with a
letter, and a typed word begins with a bar, an arrow or a character of a number, or it is a letter
and a bar (`text_cases`).
-/

set_option autoImplicit false

namespace SeriesPlot

open SeriesPlot.Text

/-- The letter that a unit is typed as. -/
def SpanUnit.letter : SpanUnit → Char
  | year => 'y'
  | month => 'm'
  | week => 'w'
  | day => 'd'
  | hour => 'h'

/-- A letter is read as the unit that is typed as it. -/
theorem SpanUnit.ofLetter?_eq_some_iff {c : Char} {unit : SpanUnit} :
    ofLetter? c = some unit ↔ c = unit.letter := by
  constructor
  · intro h
    unfold ofLetter? at h
    split at h <;> cases h <;> rfl
  · rintro rfl
    cases unit <;> rfl

namespace Shift

/-- The number of a relative change: digits with a point among them or not, and a minus before
them or not. -/
structure Numeral where
  negative : Bool
  whole : List Char
  /-- The digits after the point, if there is a point. -/
  fraction : Option (List Char)
  allDigits : ∀ c ∈ whole ++ fraction.getD [], c.isDigit = true
  ne_nil : whole ++ fraction.getD [] ≠ []

namespace Numeral

/-- The digits of a number on both sides of the point. -/
def digits (n : Numeral) : List Char := n.whole ++ n.fraction.getD []

/-- A number as it is typed, without its sign. -/
def unsignedText (n : Numeral) : List Char :=
  n.whole ++ match n.fraction with
    | some fraction => '.' :: fraction
    | none => []

/-- A number as it is typed. -/
def text (n : Numeral) : List Char := (if n.negative then ['-'] else []) ++ n.unsignedText

/-- The number nearest to the decimal that is typed. -/
def value (n : Numeral) : Binary64 :=
  Binary64.ofDecimal n.negative (digitsValue n.digits) (-((n.fraction.getD []).length : Int))

end Numeral

/-- The parts of a relative change in the order in which they are typed. -/
structure Parts where
  pinsStart : Bool
  arrows : List Char
  numeral : Option Numeral
  unit : Option SpanUnit
  pinsStop : Bool
  allArrows : ∀ c ∈ arrows, isArrow c = true

namespace Parts

/-- A bar or nothing. -/
def bar (present : Bool) : List Char := if present then [pinMark] else []

/-- The number as it is typed, or nothing. -/
def numeralText (p : Parts) : List Char := (p.numeral.map Numeral.text).getD []

/-- The letter of the unit, or nothing. -/
def unitText (p : Parts) : List Char := p.unit.toList.map SpanUnit.letter

/-- The word that the parts make up. -/
def text (p : Parts) : List Char :=
  bar p.pinsStart ++ (p.arrows ++ (p.numeralText ++ (p.unitText ++ bar p.pinsStop)))

/-- The parts have the mark of a relative change, which is a bar, an arrow, or a number without
a sign. A bar alone is no such word. -/
structure IsTyped (p : Parts) : Prop where
  marked : p.pinsStart = true ∨ p.pinsStop = true ∨ p.arrows ≠ [] ∨
    ∃ n, p.numeral = some n ∧ n.negative = false
  ne_bar : p.text ≠ [pinMark]

/-- A whole number of one to three digits, and nothing else. -/
def IsColumn (p : Parts) : Prop :=
  p.pinsStart = false ∧ p.pinsStop = false ∧ p.arrows = [] ∧ p.unit = none ∧
    ∃ n, p.numeral = some n ∧ n.negative = false ∧ n.fraction = none ∧ n.whole.length ≤ 3

/-- What the arrows say. With arrows both ways, the one that comes first decides. -/
def direction (p : Parts) : Direction :=
  if p.arrows = [] then .resize
  else if p.arrows.all (· == '>') then .forward
  else if p.arrows.all (· == '<') then .backward
  else if p.arrows.idxOf '>' < p.arrows.idxOf '<' then .contract
  else .expand

/-- Arrows one way are counted, as far as the counter goes. -/
def intensity (p : Parts) : Nat :=
  match p.direction with
  | .forward | .backward => min intensityLimit p.arrows.length
  | .resize | .expand | .contract => 1

/-- The edges that the bars pin. -/
def pin (p : Parts) : Pin :=
  match p.pinsStart, p.pinsStop with
  | true, true => .both
  | true, false => .start
  | false, true => .stop
  | false, false => .free

/-- The change that the parts stand for. -/
def shift (p : Parts) : Shift where
  word := String.ofList p.text
  direction := p.direction
  intensity := p.intensity
  magnitude := p.numeral.map Numeral.value
  unit := p.unit
  pin := p.pin
  stopAnchored := false

end Parts

/-! ### No part has a character of another -/

/-- There are two arrows. -/
theorem eq_of_isArrow {c : Char} (h : isArrow c = true) : c = '<' ∨ c = '>' := by
  unfold isArrow at h
  rcases Bool.or_eq_true_iff.mp h with h | h
  · exact .inl (beq_iff_eq.mp h)
  · exact .inr (beq_iff_eq.mp h)

/-- An arrow is no character of a number. -/
theorem isMagnitudeChar_of_isArrow {c : Char} (h : isArrow c = true) :
    isMagnitudeChar c = false := by
  rcases eq_of_isArrow h with rfl | rfl <;> rfl

/-- An arrow is no unit. -/
theorem ofLetter?_of_isArrow {c : Char} (h : isArrow c = true) : SpanUnit.ofLetter? c = none := by
  rcases eq_of_isArrow h with rfl | rfl <;> rfl

/-- A character of a number is no arrow. -/
theorem isArrow_of_isMagnitudeChar {c : Char} (h : isMagnitudeChar c = true) :
    isArrow c = false := by
  refine Bool.eq_false_iff.mpr fun harrow => ?_
  rw [isMagnitudeChar_of_isArrow harrow] at h
  cases h

/-- The characters of a number come before the letters. -/
theorem not_letter_le_of_isMagnitudeChar {c : Char} (h : isMagnitudeChar c = true) :
    ¬('a' ≤ c) := by
  simp only [isMagnitudeChar, Bool.or_eq_true, beq_iff_eq] at h
  rcases h with (hdigit | rfl) | rfl
  · intro hle
    rw [Char.le_def] at hle
    simp only [Char.isDigit, Bool.and_eq_true, decide_eq_true_eq] at hdigit
    exact absurd (UInt32.le_trans hle hdigit.2) (by decide)
  · decide
  · decide

/-- A unit is no character of a number. -/
theorem isMagnitudeChar_letter (unit : SpanUnit) : isMagnitudeChar unit.letter = false := by
  cases unit <;> rfl

/-- A unit is no arrow. -/
theorem isArrow_letter (unit : SpanUnit) : isArrow unit.letter = false := by
  cases unit <;> rfl

/-- A character of a number is no unit. -/
theorem ofLetter?_of_isMagnitudeChar {c : Char} (h : isMagnitudeChar c = true) :
    SpanUnit.ofLetter? c = none := by
  rw [Option.eq_none_iff_forall_ne_some]
  intro unit hunit
  rw [SpanUnit.ofLetter?_eq_some_iff.mp hunit, isMagnitudeChar_letter] at h
  cases h

namespace Numeral

variable {n : Numeral}

/-- A number without its sign is made of digits and a point. -/
theorem mem_unsignedText {c : Char} (h : c ∈ n.unsignedText) : c.isDigit = true ∨ c = '.' := by
  have hdigit := n.allDigits
  unfold unsignedText at h
  rcases List.mem_append.mp h with h | h
  · exact .inl (hdigit c (List.mem_append_left _ h))
  · cases hfraction : n.fraction with
    | none => simp [hfraction] at h
    | some fraction =>
      rw [hfraction] at h hdigit
      rcases List.mem_cons.mp h with rfl | h
      · exact .inr rfl
      · exact .inl (hdigit c (List.mem_append_right _ h))

/-- A number is made of the characters that are looked for in one. -/
theorem isMagnitudeChar_of_mem_text {c : Char} (h : c ∈ n.text) : isMagnitudeChar c = true := by
  unfold text at h
  rcases List.mem_append.mp h with h | h
  · split at h
    · rw [List.mem_singleton.mp h]
      rfl
    · cases h
  · rcases mem_unsignedText h with hdigit | rfl
    · simp [isMagnitudeChar, hdigit]
    · rfl

/-- A number has a digit, on one side of the point or the other. -/
theorem unsignedText_ne_nil (n : Numeral) : n.unsignedText ≠ [] := by
  have hne := n.ne_nil
  unfold unsignedText
  cases hfraction : n.fraction <;> simp_all

/-- So the text of a number is not empty. -/
theorem text_ne_nil (n : Numeral) : n.text ≠ [] :=
  List.append_ne_nil_of_right_ne_nil _ n.unsignedText_ne_nil

/-- A number without its sign does not begin with one. -/
theorem unsignedText_ne_cons_of_sign {c : Char} (rest : List Char)
    (hdigit : c.isDigit = false) (hpoint : c ≠ '.') : n.unsignedText ≠ c :: rest := by
  intro h
  rcases mem_unsignedText (h ▸ List.mem_cons_self : c ∈ n.unsignedText) with hmem | hmem
  · rw [hmem] at hdigit
    cases hdigit
  · exact hpoint hmem

/-- The sign is taken off a number, and nothing else is. -/
theorem takeSign_text (n : Numeral) : Binary64.takeSign n.text = (n.negative, n.unsignedText) := by
  unfold text
  cases n.negative with
  | true => rfl
  | false =>
    rw [if_neg Bool.false_ne_true, List.nil_append]
    unfold Binary64.takeSign
    split
    · exact absurd ‹_› (unsignedText_ne_cons_of_sign _ (by decide) (by decide))
    · exact absurd ‹_› (unsignedText_ne_cons_of_sign _ (by decide) (by decide))
    · rfl

/-- The digits before the point end at the point, and those after it are all that is left. -/
theorem takeDigits_unsignedText (n : Numeral) :
    ∃ rest, Binary64.takeDigits n.unsignedText = (n.whole, rest) ∧
      Binary64.takeFraction rest = (n.fraction.getD [], []) := by
  have hdigit := n.allDigits
  unfold unsignedText Binary64.takeDigits
  -- Without a point all characters are digits; with one the first run of digits ends at it.
  cases hfraction : n.fraction with
  | none =>
    have hwhole : ∀ c ∈ n.whole, c.isDigit = true := fun c hc =>
      hdigit c (List.mem_append_left _ hc)
    refine ⟨[], ?_, rfl⟩
    rw [List.takeWhile_append_of_pos hwhole, List.dropWhile_append_of_pos hwhole]
    simp
  | some fraction =>
    rw [hfraction, Option.getD_some, List.forall_mem_append] at hdigit
    refine ⟨'.' :: fraction, ?_, ?_⟩
    · rw [List.takeWhile_append_of_pos hdigit.1, List.dropWhile_append_of_pos hdigit.1]
      simp
    · unfold Binary64.takeFraction Binary64.takeDigits
      show (fraction.takeWhile Char.isDigit, fraction.dropWhile Char.isDigit) = (fraction, [])
      rw [List.takeWhile_eq_self_iff.mpr hdigit.2, List.dropWhile_eq_nil_iff.mpr hdigit.2]

/-- A number is read as a whole, and with its value. -/
theorem numeral?_text (n : Numeral) : Binary64.numeral? n.text = some (n.value, []) := by
  obtain ⟨rest, hwhole, hfraction⟩ := n.takeDigits_unsignedText
  unfold Binary64.numeral?
  rw [n.takeSign_text]
  dsimp only
  rw [hwhole]
  dsimp only
  rw [hfraction]
  dsimp only
  -- There are digits, and no exponent, as its mark is no part of a number here.
  rw [if_neg n.ne_nil, Binary64.takeExponent]
  dsimp only
  rw [Int.zero_sub]
  rfl

end Numeral

/-! ### Finding a part -/

/-- The first run of the characters of a class is all of them, if they stand together. -/
theorem firstRun_append {inClass : Char → Bool} {before run after : List Char}
    (hbefore : ∀ c ∈ before, inClass c = false) (hrun : ∀ c ∈ run, inClass c = true)
    (hafter : ∀ c ∈ after, inClass c = false) :
    ((before ++ (run ++ after)).dropWhile (!inClass ·)).takeWhile inClass = run := by
  have hend : after.takeWhile inClass = [] := by
    cases after with
    | nil => rfl
    | cons c after => simp [hafter c List.mem_cons_self]
  rw [List.dropWhile_append_of_pos fun c hc => by simp [hbefore c hc]]
  -- An empty run is followed by nothing of the class, so nothing is found.
  cases run with
  | nil =>
    rw [List.nil_append, List.dropWhile_eq_nil_iff.mpr fun c hc => by simp [hafter c hc]]
    rfl
  | cons c run =>
    rw [List.cons_append, List.dropWhile_cons_of_neg (by simp [hrun c List.mem_cons_self]),
      ← List.cons_append, List.takeWhile_append_of_pos hrun, hend, List.append_nil]

namespace Parts

variable {p : Parts} {c : Char}

/-- A bar is made of the one character that marks it. -/
theorem eq_of_mem_bar {present : Bool} (h : c ∈ bar present) : c = pinMark := by
  cases present with
  | false => cases h
  | true => exact List.mem_singleton.mp h

/-- Nothing is typed for a bar iff there is none. -/
theorem bar_eq_nil_iff {present : Bool} : bar present = [] ↔ present = false := by
  cases present <;> simp [bar]

/-- Nothing is typed for the number iff there is none. -/
theorem numeralText_eq_nil_iff : p.numeralText = [] ↔ p.numeral = none := by
  unfold numeralText
  cases p.numeral with
  | none => simp
  | some n => simpa using n.text_ne_nil

/-- The number of a change is made of characters of numbers. -/
theorem isMagnitudeChar_of_mem_numeralText (h : c ∈ p.numeralText) : isMagnitudeChar c = true := by
  unfold numeralText at h
  cases hnumeral : p.numeral with
  | none =>
    rw [hnumeral] at h
    cases h
  | some n =>
    rw [hnumeral] at h
    exact Numeral.isMagnitudeChar_of_mem_text h

/-- The unit of a change is the letter of one. -/
theorem exists_unit_of_mem_unitText (h : c ∈ p.unitText) : ∃ unit : SpanUnit, c = unit.letter := by
  obtain ⟨unit, -, rfl⟩ := List.mem_map.mp h
  exact ⟨unit, rfl⟩

/-- A class without the bar and the letters of units. -/
theorem eq_false_of_mem_after {inClass : Char → Bool} (hbar : inClass pinMark = false)
    (hletter : ∀ unit : SpanUnit, inClass unit.letter = false)
    (h : c ∈ p.unitText ++ bar p.pinsStop) : inClass c = false := by
  rcases List.mem_append.mp h with h | h
  · obtain ⟨unit, rfl⟩ := exists_unit_of_mem_unitText h
    exact hletter unit
  · rw [eq_of_mem_bar h]
    exact hbar

/-- No arrow comes after the number. -/
theorem isArrow_of_mem_after (h : c ∈ p.numeralText ++ (p.unitText ++ bar p.pinsStop)) :
    isArrow c = false := by
  rcases List.mem_append.mp h with h | h
  · exact isArrow_of_isMagnitudeChar (isMagnitudeChar_of_mem_numeralText h)
  · exact eq_false_of_mem_after rfl isArrow_letter h

/-- The first run of arrows is all that are typed. -/
theorem firstArrows_text (p : Parts) :
    (p.text.dropWhile (!isArrow ·)).takeWhile isArrow = p.arrows := by
  refine firstRun_append (fun c hc => ?_) p.allArrows fun c hc => isArrow_of_mem_after hc
  rw [eq_of_mem_bar hc]
  rfl

/-- The arrows of the whole word are those that are typed. -/
theorem filter_isArrow_text (p : Parts) : p.text.filter isArrow = p.arrows := by
  have hbar : (bar p.pinsStart).filter isArrow = [] := List.filter_eq_nil_iff.mpr fun c hc => by
    rw [eq_of_mem_bar hc]
    decide
  have hafter : (p.numeralText ++ (p.unitText ++ bar p.pinsStop)).filter isArrow = [] :=
    List.filter_eq_nil_iff.mpr fun c hc => by simp [isArrow_of_mem_after hc]
  rw [text, List.filter_append, List.filter_append, hbar, hafter,
    List.filter_eq_self.mpr p.allArrows, List.nil_append, List.append_nil]

/-- The arrow that comes first decides if there are arrows of both kinds. -/
theorem directionOf_text (p : Parts) : directionOf p.text = p.direction := by
  have harrows := p.allArrows
  unfold directionOf direction
  rw [p.filter_isArrow_text]
  cases hp : p.arrows with
  | nil => rfl
  | cons first rest =>
    rw [hp, List.forall_mem_cons] at harrows
    -- An arrow that is not of one kind is of the other.
    have hlater : (∀ c ∈ rest, c = '>') ↔ '<' ∉ rest :=
      ⟨fun hall hmem => absurd (hall _ hmem) (by decide), fun hnot c hc =>
        (eq_of_isArrow (harrows.2 c hc)).resolve_left fun heq => hnot (heq ▸ hc)⟩
    have hearlier : (∀ c ∈ rest, c = '<') ↔ '>' ∉ rest :=
      ⟨fun hall hmem => absurd (hall _ hmem) (by decide), fun hnot c hc =>
        (eq_of_isArrow (harrows.2 c hc)).resolve_right fun heq => hnot (heq ▸ hc)⟩
    rcases eq_of_isArrow harrows.1 with rfl | rfl
    · by_cases hmixed : '>' ∈ rest <;> simp [hearlier, hmixed]
    · by_cases hmixed : '<' ∈ rest <;> simp [hlater, hmixed]

/-- The count of the arrows is read back. -/
theorem intensityOf_text (p : Parts) : intensityOf p.text = p.intensity := by
  unfold intensityOf intensity
  rw [p.directionOf_text, p.firstArrows_text]
  cases p.direction <;> rfl

/-- The number is read back. -/
theorem magnitudeOf_text (p : Parts) : magnitudeOf p.text = p.numeral.map Numeral.value := by
  have hrun : (p.text.dropWhile (!isMagnitudeChar ·)).takeWhile isMagnitudeChar =
      p.numeralText := by
    rw [text, ← List.append_assoc]
    refine firstRun_append (fun c hc => ?_) (fun c hc => isMagnitudeChar_of_mem_numeralText hc)
      fun c hc => eq_false_of_mem_after rfl isMagnitudeChar_letter hc
    rcases List.mem_append.mp hc with hc | hc
    · rw [eq_of_mem_bar hc]
      rfl
    · exact isMagnitudeChar_of_isArrow (p.allArrows c hc)
  -- Only the number has characters of a number, so they are the first run of these.
  unfold magnitudeOf
  rw [hrun, numeralText]
  cases p.numeral with
  | none => rfl
  | some n =>
    rw [Option.map_some, Option.getD_some]
    split
    · exact absurd ‹_› n.text_ne_nil
    · rw [n.numeral?_text]
      rfl

/-- The unit is read back: no other part has a letter of a unit. -/
theorem findSome?_text (p : Parts) : p.text.findSome? SpanUnit.ofLetter? = p.unit := by
  have hbar (present : Bool) : (bar present).findSome? SpanUnit.ofLetter? = none := by
    cases present <;> rfl
  have harrows : p.arrows.findSome? SpanUnit.ofLetter? = none :=
    List.findSome?_eq_none_iff.mpr fun c hc => ofLetter?_of_isArrow (p.allArrows c hc)
  have hnumeral : p.numeralText.findSome? SpanUnit.ofLetter? = none :=
    List.findSome?_eq_none_iff.mpr fun c hc =>
      ofLetter?_of_isMagnitudeChar (isMagnitudeChar_of_mem_numeralText hc)
  have hunit : p.unitText.findSome? SpanUnit.ofLetter? = p.unit := by
    unfold unitText
    cases p.unit with
    | none => rfl
    | some unit => cases unit <;> rfl
  simp only [text, List.findSome?_append, hbar, harrows, hnumeral, hunit, Option.none_or,
    Option.or_none]

/-- What is typed between the bars. -/
def middle (p : Parts) : List Char := p.arrows ++ (p.numeralText ++ p.unitText)

/-- The bars stand around everything else. -/
theorem text_eq (p : Parts) : p.text = bar p.pinsStart ++ (p.middle ++ bar p.pinsStop) := by
  simp [text, middle]

/-- There is no bar between the bars. -/
theorem ne_pinMark_of_mem_middle (h : c ∈ p.middle) : c ≠ pinMark := by
  unfold middle at h
  rintro rfl
  rcases List.mem_append.mp h with h | h
  · exact absurd (p.allArrows _ h) (by decide)
  rcases List.mem_append.mp h with h | h
  · exact absurd (isMagnitudeChar_of_mem_numeralText h) (by decide)
  · obtain ⟨unit, hunit⟩ := exists_unit_of_mem_unitText h
    cases unit <;> exact absurd hunit (by decide)

/-- The first character is a bar only if a bar is typed there. -/
theorem head?_text (h : p.text ≠ [pinMark]) :
    (p.text.head? == some pinMark) = p.pinsStart := by
  rw [text_eq] at h ⊢
  cases hstart : p.pinsStart with
  | true => rfl
  | false =>
    rw [hstart] at h
    cases hmiddle : p.middle with
    | nil =>
      -- A bar at the end would be at the front as well, and the whole word.
      rw [hmiddle] at h
      cases hstop : p.pinsStop with
      | false => rfl
      | true => exact absurd (by rw [hstop]; rfl) h
    | cons c rest =>
      have hne : c ≠ pinMark := ne_pinMark_of_mem_middle (hmiddle ▸ List.mem_cons_self)
      simp [bar, hne]

/-- The last character is a bar only if a bar is typed there. -/
theorem getLast?_text (h : p.text ≠ [pinMark]) :
    (p.text.getLast? == some pinMark) = p.pinsStop := by
  rw [text_eq, ← List.append_assoc] at h ⊢
  cases hstop : p.pinsStop with
  | true => simp [bar]
  | false =>
    rw [hstop] at h
    cases hlast : p.middle.getLast? with
    | none =>
      -- Likewise a bar at the front would be at the end.
      rw [List.getLast?_eq_none_iff.mp hlast] at h ⊢
      cases hstart : p.pinsStart with
      | false => rfl
      | true => exact absurd (by rw [hstart]; rfl) h
    | some c =>
      have hne : c ≠ pinMark := ne_pinMark_of_mem_middle (List.mem_of_getLast? hlast)
      simp [bar, List.getLast?_append, hlast, hne]

/-- The pinned edges are read back. -/
theorem pinOf_text (h : p.text ≠ [pinMark]) : pinOf p.text = p.pin := by
  unfold pinOf
  rw [head?_text h, getLast?_text h]
  cases hstart : p.pinsStart <;> cases hstop : p.pinsStop <;> simp only [pin, hstart, hstop]

/-! ### Reading the word -/

/-- What is marked as a relative change is not empty. -/
theorem IsTyped.ne_nil (h : p.IsTyped) : p.text ≠ [] := by
  intro hnil
  rw [text, List.append_eq_nil_iff, List.append_eq_nil_iff, List.append_eq_nil_iff,
    List.append_eq_nil_iff] at hnil
  rw [bar_eq_nil_iff, bar_eq_nil_iff, numeralText_eq_nil_iff] at hnil
  obtain ⟨hstart, harrows, hnumeral, -, hstop⟩ := hnil
  have hmarked := h.marked
  simp [hstart, hstop, harrows, hnumeral] at hmarked

/-- Nothing is typed but arrows, bars, numbers and units. -/
theorem isAllowed_of_mem_text (hc : c ∈ p.text) :
    (isArrow c || c == pinMark || isMagnitudeChar c || isUnitLetter c) = true := by
  rw [text_eq, middle] at hc
  simp only [List.mem_append] at hc
  rcases hc with hbar | (harrow | hnumeral | hunit) | hbar
  · simp [eq_of_mem_bar hbar]
  · simp [p.allArrows c harrow]
  · simp [isMagnitudeChar_of_mem_numeralText hnumeral]
  · obtain ⟨unit, rfl⟩ := exists_unit_of_mem_unitText hunit
    cases unit <;> rfl
  · simp [eq_of_mem_bar hbar]

/-- So no word that is typed has a character that no part has. -/
theorem not_mem_text
    (hc : (isArrow c || c == pinMark || isMagnitudeChar c || isUnitLetter c) = false) :
    c ∉ p.text := by
  intro hmem
  rw [isAllowed_of_mem_text hmem] at hc
  cases hc

/-- It does not begin with one either. -/
theorem text_ne_cons
    (hc : (isArrow c || c == pinMark || isMagnitudeChar c || isUnitLetter c) = false)
    (rest : List Char) : p.text ≠ c :: rest :=
  fun hcons => not_mem_text hc (hcons ▸ List.mem_cons_self)

/-- The parts are read back from the word, each of them by its own search. -/
theorem shiftParse?_text (h : p.IsTyped) : parse? p.text = some p.shift := by
  have hallowed : p.text.all
      (fun c => isArrow c || c == pinMark || isMagnitudeChar c || isUnitLetter c) = true :=
    List.all_eq_true.mpr fun c hc => isAllowed_of_mem_text hc
  unfold parse?
  dsimp only
  rw [hallowed, if_neg (by simp [h.ne_nil]), directionOf_text, intensityOf_text,
    magnitudeOf_text, findSome?_text, pinOf_text h.ne_bar]
  rfl

/-- A number without a sign and a unit after it or not. -/
theorem isPlainSpan_text (n : Numeral) (unit : Option SpanUnit) :
    TimeToken.isPlainSpan (n.unsignedText ++ unit.toList.map SpanUnit.letter) = true := by
  have hbody : (!n.unsignedText.isEmpty &&
      n.unsignedText.all fun c => c.isDigit || c == '.') = true := by
    have hall : n.unsignedText.all (fun c => c.isDigit || c == '.') = true :=
      List.all_eq_true.mpr fun c hc => by simpa using n.mem_unsignedText hc
    simp [n.unsignedText_ne_nil, hall]
  unfold TimeToken.isPlainSpan
  cases unit with
  | some unit =>
    have hletter : isUnitLetter unit.letter = true := by cases unit <;> rfl
    simpa [hletter] using hbody
  | none =>
    -- The last character is no unit, so nothing is left out.
    obtain ⟨last, hlast⟩ : ∃ c, n.unsignedText.getLast? = some c :=
      Option.isSome_iff_exists.mp (by simpa using n.unsignedText_ne_nil)
    have hunit : isUnitLetter last = false := by
      unfold isUnitLetter
      rw [ofLetter?_of_isMagnitudeChar, Option.isSome_none]
      exact n.isMagnitudeChar_of_mem_text
        (List.mem_append_right _ (List.mem_of_getLast? hlast))
    simpa [hlast, hunit] using hbody

/-- Without the mark in the word no edge is pinned. -/
theorem pins_of_pinMark_not_mem (h : pinMark ∉ p.text) :
    p.pinsStart = false ∧ p.pinsStop = false := by
  constructor <;> refine Bool.eq_false_iff.mpr fun hbar => h ?_ <;> simp [text, bar, hbar]

/-- A typed word with no bar and no arrow is a number without a sign and a unit after it or
not. -/
theorem IsTyped.exists_numeral (h : p.IsTyped) (hpin : pinMark ∉ p.text)
    (harrows : p.arrows = []) :
    ∃ n, p.numeral = some n ∧ n.negative = false ∧ p.text = n.unsignedText ++ p.unitText := by
  obtain ⟨hstart, hstop⟩ := pins_of_pinMark_not_mem hpin
  obtain ⟨n, hn, hsign⟩ : ∃ n, p.numeral = some n ∧ n.negative = false := by
    simpa [hstart, hstop, harrows] using h.marked
  refine ⟨n, hn, hsign, ?_⟩
  simp [text, bar, numeralText, Numeral.text, hstart, hstop, harrows, hn, hsign]

/-- The word has a mark of a relative change, so it is read as one. -/
theorem shift?_text (h : p.IsTyped) : TimeToken.shift? p.text = some (.shift p.shift) := by
  have hmark : (p.text.any isArrow || p.text.contains pinMark || TimeToken.isPlainSpan p.text)
      = true := by
    -- The mark is an arrow or a bar, or the word is a number with a unit.
    by_cases harrows : p.arrows = []
    · by_cases hpin : pinMark ∈ p.text
      · simp [hpin]
      · obtain ⟨n, -, -, htext⟩ := h.exists_numeral hpin harrows
        rw [htext, unitText, isPlainSpan_text, Bool.or_true]
    · obtain ⟨c, hc⟩ := List.exists_mem_of_ne_nil _ harrows
      have hany : p.text.any isArrow = true :=
        List.any_eq_true.mpr ⟨c, by simp [text, hc], p.allArrows c hc⟩
      rw [hany, Bool.true_or, Bool.true_or]
  unfold TimeToken.shift?
  rw [if_pos hmark, shiftParse?_text h]
  rfl

/-- No mark of another time token is typed. -/
theorem parse?_text (h : p.IsTyped) : TimeToken.parse? p.text = some (.ok (.shift p.shift)) := by
  unfold TimeToken.parse?
  -- Spans that have a name, and edges and centres, begin with letters that no part has.
  split
  · exact absurd ‹_› (text_ne_cons (by decide) _)
  · exact absurd ‹_› (text_ne_cons (by decide) _)
  · exact absurd ‹_› (text_ne_cons (by decide) _)
  · rename_i mark rest _ _ hcons
    dsimp only
    split
    · rename_i hanchor _
      split at hanchor
      · exact absurd hcons (text_ne_cons (by decide) _)
      · exact absurd hcons (text_ne_cons (by decide) _)
      · exact absurd hcons (text_ne_cons (by decide) _)
      · cases hanchor
    · rw [shift?_text h]
      rfl
  · exact absurd ‹_› h.ne_nil

/-- What a typed word begins with, if it is not a letter and a bar. -/
theorem text_cases (h : p.IsTyped) :
    (∃ unit : SpanUnit, p.text = [unit.letter, pinMark]) ∨
      ∃ c rest, p.text = c :: rest ∧
        (c = pinMark ∨ isArrow c = true ∨ isMagnitudeChar c = true) := by
  by_cases hleft : bar p.pinsStart ++ (p.arrows ++ p.numeralText) = []
  · -- Without a number it takes a bar at the end, and it is not alone.
    rw [List.append_eq_nil_iff, List.append_eq_nil_iff, bar_eq_nil_iff,
      numeralText_eq_nil_iff] at hleft
    obtain ⟨hstart, harrows, hnumeral⟩ := hleft
    have hstop : p.pinsStop = true := by simpa [hstart, harrows, hnumeral] using h.marked
    have htext : p.text = p.unitText ++ [pinMark] := by
      simp [text, bar, numeralText, hstart, hstop, harrows, hnumeral]
    cases hunit : p.unit with
    | none => exact absurd (by simp [htext, unitText, hunit]) h.ne_bar
    | some unit => exact .inl ⟨unit, by simp [htext, unitText, hunit]⟩
  · obtain ⟨c, rest, hcons⟩ := List.exists_cons_of_ne_nil hleft
    refine .inr ⟨c, rest ++ (p.unitText ++ bar p.pinsStop), ?_, ?_⟩
    · rw [← List.cons_append, ← hcons]
      simp [text]
    · have hmem : c ∈ bar p.pinsStart ++ (p.arrows ++ p.numeralText) :=
        hcons ▸ List.mem_cons_self
      rcases List.mem_append.mp hmem with hbar | hmem
      · exact .inl (eq_of_mem_bar hbar)
      rcases List.mem_append.mp hmem with harrow | hnumeral
      · exact .inr (.inl (p.allArrows c harrow))
      · exact .inr (.inr (isMagnitudeChar_of_mem_numeralText hnumeral))

/-! ### Reading the word among other kinds of words -/

/-- The words that number a column are those of at most three digits. -/
theorem isColumn_iff (h : p.IsTyped) :
    p.IsColumn ↔ p.text.length ≤ 3 ∧ ∀ c ∈ p.text, c.isDigit = true := by
  constructor
  · rintro ⟨hstart, hstop, harrows, hunit, n, hn, hsign, hfraction, hlength⟩
    have htext : p.text = n.whole := by
      simp [text, bar, numeralText, unitText, Numeral.text, Numeral.unsignedText, hstart, hstop,
        harrows, hunit, hn, hsign, hfraction]
    rw [htext]
    exact ⟨hlength, fun c hc => n.allDigits c (List.mem_append_left _ hc)⟩
  · rintro ⟨hlength, hdigits⟩
    -- A part with a character that is no digit is left out.
    have hout {c : Char} (hc : c.isDigit = false) : c ∉ p.text := fun hmem => by
      rw [hdigits c hmem] at hc
      cases hc
    have hpin : pinMark ∉ p.text := hout (by decide)
    obtain ⟨hstart, hstop⟩ := pins_of_pinMark_not_mem hpin
    have harrows : p.arrows = [] := List.eq_nil_iff_forall_not_mem.mpr fun c hc =>
      hout (c := c) (by rcases eq_of_isArrow (p.allArrows c hc) with rfl | rfl <;> decide)
        (by simp [text, hc])
    have hunit : p.unit = none := by
      cases hp : p.unit with
      | none => rfl
      | some unit =>
        refine absurd ?_ (hout (c := unit.letter) (by cases unit <;> decide))
        simp [text, unitText, hp]
    obtain ⟨n, hn, hsign, htext⟩ := h.exists_numeral hpin harrows
    have hfraction : n.fraction = none := by
      cases hp : n.fraction with
      | none => rfl
      | some fraction =>
        refine absurd ?_ (hout (c := '.') (by decide))
        simp [htext, Numeral.unsignedText, hp]
    refine ⟨hstart, hstop, harrows, hunit, n, hn, hsign, hfraction, ?_⟩
    simpa [htext, Numeral.unsignedText, unitText, hfraction, hunit] using hlength

/-- A typed word is no item of a selection, unless it is the number of a column. -/
theorem itemParse?_text (h : p.IsTyped) :
    (p.IsColumn → Selection.Item.parse? p.text = some ⟨none, some (digitsValue p.text)⟩) ∧
      (¬p.IsColumn → Selection.Item.parse? p.text = none) := by
  rw [isColumn_iff h]
  rcases text_cases h with ⟨unit, htext⟩ | ⟨c, rest, htext, hhead⟩
  · -- The letter may be that of a file, but no column has a bar for its number.
    rw [htext]
    refine ⟨fun hcolumn => absurd (hcolumn.2 pinMark (by simp)) (by decide), fun _ => ?_⟩
    cases unit <;> rfl
  · have hletter : ¬('a' ≤ c ∧ c ≤ 's') := by
      rcases hhead with rfl | harrow | hmagnitude
      · decide
      · rcases eq_of_isArrow harrow with rfl | rfl <;> decide
      · exact fun hle => not_letter_le_of_isMagnitudeChar hmagnitude hle.1
    -- The word has no letter in front, so it is an item iff it is the number of a column.
    have hfits : (3 < p.text.length ∨ (!p.text.all Char.isDigit) = true) ↔
        ¬(p.text.length ≤ 3 ∧ ∀ c ∈ p.text, c.isDigit = true) := by
      rw [Classical.not_and_iff_not_or_not, Nat.not_le, Bool.not_eq_true', ← Bool.not_eq_true,
        List.all_eq_true]
    rw [htext] at hfits ⊢
    unfold Selection.Item.parse?
    dsimp only
    rw [if_neg hletter]
    constructor
    · intro hcolumn
      rw [if_neg fun hbad => hfits.mp hbad hcolumn]
      rfl
    · intro hnot
      rw [if_pos (hfits.mpr hnot)]

/-- A word without a comma is one item of a selection or none. -/
theorem selectionParse?_text (h : p.IsTyped) :
    (p.IsColumn → Selection.parse? p.text =
        some (Selection.ofItems [⟨none, some (digitsValue p.text)⟩])) ∧
      (¬p.IsColumn → Selection.parse? p.text = none) := by
  have hpieces : (splitOn ',' p.text).filter (!·.isEmpty) = [p.text] := by
    have hcomma : ',' ∉ p.text := not_mem_text (by decide)
    -- No part of a relative change has a comma.
    unfold splitOn
    rw [splitWhere_eq_singleton fun c hc =>
      beq_eq_false_iff_ne.mpr (ne_of_mem_of_not_mem hc hcomma)]
    simp [h.ne_nil]
  unfold Selection.parse?
  dsimp only
  rw [hpieces]
  constructor
  · intro hcolumn
    simp [(itemParse?_text h).1 hcolumn]
  · intro hnot
    simp [(itemParse?_text h).2 hnot]

/-- A typed word begins with the letter of the year only if a bar is all that follows. -/
theorem text_ne_cons_year (h : p.IsTyped) (hyear : p.text ≠ ['y', pinMark]) (rest : List Char) :
    p.text ≠ 'y' :: rest := by
  intro hcons
  rcases text_cases h with ⟨unit, htext⟩ | ⟨c, rest, htext, hhead⟩
  · have hletter : unit.letter = 'y' := (List.cons.inj (htext.symm.trans hcons)).1
    rw [hletter] at htext
    exact hyear htext
  · rw [(List.cons.inj (htext.symm.trans hcons)).1] at hhead
    revert hhead
    decide

/-- The kinds of words that are tried before selections and time tokens begin with letters that
no part has, but for the minus and the letter of the year. -/
theorem ofWord_text (h : p.IsTyped) (hyear : p.text ≠ ['y', pinMark])
    (hminus : p.text.head? ≠ some '-') :
    Intent.ofWord p.text = match Selection.parse? p.text with
      | some selection => .select (.select selection)
      | none => .time (.shift p.shift) := by
  unfold Intent.ofWord
  split
  · exact absurd ‹_› (text_ne_cons (by decide) _)
  · exact absurd ‹_› (text_ne_cons_year h hyear _)
  · rename_i hcons
    exact absurd (by rw [hcons]; rfl) hminus
  · exact absurd ‹_› (text_ne_cons (by decide) _)
  · exact absurd ‹_› (text_ne_cons (by decide) _)
  · cases Selection.parse? p.text with
    | some selection => rfl
    | none => simp only [parse?_text h]

/-- The parts of a relative change are read back from the word that they make up, whatever is
left out. As a word of a line it is that change as well, unless it is the number of a column,
the letter of the year with a bar, which leaves both bounds of the values open, or begins with
a minus, which sets options. -/
theorem typed_parts_read_back (p : Parts) (h : p.IsTyped) :
    TimeToken.parse? p.text = some (.ok (.shift p.shift)) ∧
      (¬p.IsColumn → p.text ≠ ['y', pinMark] → p.text.head? ≠ some '-' →
        Intent.ofWord p.text = .time (.shift p.shift)) ∧
      (p.IsColumn → Intent.ofWord p.text =
        .select (.select (Selection.ofItems [⟨none, some (digitsValue p.text)⟩]))) ∧
      (p.text = ['y', pinMark] → Intent.ofWord p.text = .yRange .auto) ∧
      (∀ rest, p.text = '-' :: rest →
        Intent.ofWord p.text = .options (OptionChange.parseList rest)) := by
  refine ⟨parse?_text h, fun hcolumn hyear hminus => ?_, fun hcolumn => ?_, fun htext => ?_,
    fun rest htext => ?_⟩
  · rw [ofWord_text h hyear hminus, (selectionParse?_text h).2 hcolumn]
  · -- All of a column's word is digits, so it is neither of the two other exceptions.
    have hdigits := ((isColumn_iff h).mp hcolumn).2
    have hyear : p.text ≠ ['y', pinMark] := fun htext =>
      absurd (hdigits 'y' (by simp [htext])) (by decide)
    have hminus : p.text.head? ≠ some '-' := fun hhead =>
      absurd (hdigits '-' (List.mem_of_head? hhead)) (by decide)
    rw [ofWord_text h hyear hminus, (selectionParse?_text h).1 hcolumn]
  · rw [htext]
    rfl
  · rw [htext]
    rfl

/-- `|>>-1.5h`: two arrows later, with the start held, by minus one and a half hours each. -/
def sample : Parts where
  pinsStart := true
  arrows := ['>', '>']
  numeral := some ⟨true, ['1'], some ['5'], by simp, by decide⟩
  unit := some .hour
  pinsStop := false
  allArrows := by simp [isArrow]

/-- A word with an arrow counted twice, a sign, a fraction and a bar on one side. -/
theorem typed_parts_read_back_of_sample :
    let s : Shift :=
      { word := "|>>-1.5h", direction := .forward, intensity := 2,
        magnitude := some (Binary64.ofDecimal true 15 (-1)), unit := some .hour, pin := .start,
        stopAnchored := false }
    sample.IsTyped ∧ TimeToken.parse? "|>>-1.5h".toList = some (.ok (.shift s)) ∧
      Intent.ofWord "|>>-1.5h".toList = .time (.shift s) := by
  have htyped : sample.IsTyped := ⟨.inl rfl, by decide⟩
  have hcolumn : ¬sample.IsColumn := fun h => absurd h.1 (by decide)
  obtain ⟨htoken, hintent, -, -, -⟩ := typed_parts_read_back sample htyped
  exact ⟨htyped, htoken, hintent hcolumn (by decide) (by decide)⟩

end Parts

end Shift

end SeriesPlot
