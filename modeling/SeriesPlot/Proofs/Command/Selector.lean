import SeriesPlot.Proofs.Command.Payload
import SeriesPlot.Proofs.Text.Digits
import SeriesPlot.Proofs.Text.Fields

/-!
# `SeriesPlot.Proofs.Command.Selector`: selections as words

The selections that words denote are the well-formed ones of items with a source's letter and
a column of at most three digits, as far as they have them (`Selection.IsTypable`). The text of
such a selection denotes it again (`Selection.parse?_text`), whatever was written for it: zeros in
front of a column, empty items and repetitions are not in the text.

A selector holds letters of sources, digits and commas only, so no word of another kind is one,
with one exception. The letter `i` alone is an item like the letters before and after it, but
as a word it asks for something else (`Intent.ofWord_eq_select_iff`).

Both directions go item by item. An item is a letter with a column or without one
(`Selection.Item.parse?_letter_eq_some_iff`), or a column alone
(`Selection.Item.parse?_number_eq_some_iff`), and a selector is read iff all its pieces are items
and there is one (`Selection.parse?_eq_some_iff`).
-/

set_option autoImplicit false

namespace SeriesPlot

open SeriesPlot.Text SeriesPlot.Proofs.Support

/-- A list is read as a whole if each element of it is. -/
private theorem mapM_eq_some_iff {α β : Type} {f : α → Option β} {xs : List α} {ys : List β} :
    xs.mapM f = some ys ↔ xs.map f = ys.map some := by
  induction xs generalizing ys with
  | nil => cases ys <;> simp
  | cons x xs ih =>
    rw [List.mapM_cons, List.map_cons]
    cases f x with
    | none => cases ys <;> simp
    | some y =>
      cases ys with
      | nil => cases xs.mapM f <;> simp
      | cons y' ys =>
        rw [List.map_cons, List.cons_eq_cons, ← ih]
        cases xs.mapM f <;> simp

namespace Selection

namespace Item

/-- A source has a letter from `a` to `s`. -/
def IsLetter (c : Char) : Prop := 'a' ≤ c ∧ c ≤ 's'

instance : DecidablePred IsLetter := fun _ => inferInstanceAs (Decidable (_ ∧ _))

/-- An item that a word can name: it has a letter, a column, or both. -/
structure IsTypable (item : Item) : Prop where
  letter : ∀ c, item.source = some c → IsLetter c
  column : ∀ n, item.column = some n → n < 1000
  named : item.source = none → item.column ≠ none

/-- The characters of items. -/
def IsNameChar (c : Char) : Prop := IsLetter c ∨ c.isDigit = true

instance : DecidablePred IsNameChar := fun _ => inferInstanceAs (Decidable (_ ∨ _))

/-- The digits come before the letters of sources. -/
theorem not_isLetter_of_isDigit {c : Char} (h : c.isDigit = true) : ¬IsLetter c := by
  intro hletter
  have hdigit := (Char.isDigit_iff_toNat.mp h).2
  have hlow : 'a'.toNat ≤ c.toNat := hletter.1
  exact absurd (Nat.le_trans hlow hdigit) (by decide)

/-- The texts that can number a column, the empty one included. -/
structure IsColumnText (digits : List Char) : Prop where
  length_le : digits.length ≤ 3
  isDigit : ∀ c ∈ digits, c.isDigit = true

/-- The test for a column, as the reader makes it. -/
theorem isColumnText_iff {digits : List Char} :
    ¬(3 < digits.length ∨ !digits.all Char.isDigit) ↔ IsColumnText digits := by
  rw [not_or, Nat.not_lt, Bool.not_eq_true, Bool.not_eq_false', List.all_eq_true]
  exact ⟨fun h => ⟨h.1, h.2⟩, fun h => ⟨h.length_le, h.isDigit⟩⟩

/-- Three digits make a number below a thousand. -/
theorem IsColumnText.digitsValue_lt {digits : List Char} (h : IsColumnText digits) :
    digitsValue digits < 1000 :=
  calc digitsValue digits < 10 ^ digits.length := Text.digitsValue_lt h.isDigit
    _ ≤ 10 ^ 3 := Nat.pow_le_pow_right (by decide) h.length_le

/-- So the digits of such a number can be typed as a column. -/
theorem isColumnText_toDigits {n : Nat} (h : n < 1000) : IsColumnText (Nat.toDigits 10 n) :=
  ⟨(Nat.length_toDigits_le_iff (by decide) (by decide)).mpr h,
    fun _ => Nat.isDigit_of_mem_toDigits (by decide) (by decide)⟩

/-- A piece with a letter is an item if a column follows, or nothing for every column. -/
theorem parse?_letter_eq_some_iff {c : Char} (h : IsLetter c) {digits : List Char} {item : Item} :
    parse? (c :: digits) = some item ↔
      IsColumnText digits ∧
        item = ⟨some c, if digits.isEmpty then none else some (digitsValue digits)⟩ := by
  have hread : parse? (c :: digits) = if 3 < digits.length ∨ !digits.all Char.isDigit then none
      else some ⟨some c, if digits.isEmpty then none else some (digitsValue digits)⟩ := if_pos h
  rw [hread, Option.ite_none_left_eq_some, isColumnText_iff, Option.some.injEq, eq_comm (b := item)]

/-- A piece without a letter is an item if it is a column. -/
theorem parse?_number_eq_some_iff {c : Char} (h : ¬IsLetter c) {rest : List Char} {item : Item} :
    parse? (c :: rest) = some item ↔
      IsColumnText (c :: rest) ∧ item = ⟨none, some (digitsValue (c :: rest))⟩ := by
  have hread : parse? (c :: rest) =
      if 3 < (c :: rest).length ∨ !(c :: rest).all Char.isDigit then none
      else some ⟨none, some (digitsValue (c :: rest))⟩ := if_neg h
  rw [hread, Option.ite_none_left_eq_some, isColumnText_iff, Option.some.injEq, eq_comm (b := item)]

/-- What a piece of a selector denotes can be typed, and the piece has no other characters
than items have. -/
theorem isTypable_of_parse? {text : List Char} {item : Item} (h : parse? text = some item) :
    item.IsTypable ∧ ∀ c ∈ text, IsNameChar c := by
  cases text with
  | nil => cases h
  | cons c rest =>
    -- A piece begins with the letter of a file, or it is a number as a whole.
    by_cases hletter : IsLetter c
    · obtain ⟨hcolumn, rfl⟩ := (parse?_letter_eq_some_iff hletter).mp h
      refine ⟨⟨?_, ?_, nofun⟩, ?_⟩
      · rintro _ ⟨⟩
        exact hletter
      · intro n hn
        obtain ⟨-, heq⟩ := Option.ite_none_left_eq_some.mp hn
        exact Option.some.inj heq ▸ hcolumn.digitsValue_lt
      · simpa using ⟨.inl hletter, fun d hd => .inr (hcolumn.isDigit d hd)⟩
    · obtain ⟨hcolumn, rfl⟩ := (parse?_number_eq_some_iff hletter).mp h
      refine ⟨⟨nofun, ?_, nofun⟩, fun d hd => .inr (hcolumn.isDigit d hd)⟩
      rintro _ ⟨⟩
      exact hcolumn.digitsValue_lt

/-- An item that can be typed is read back from its text. -/
theorem parse?_text {item : Item} (h : item.IsTypable) :
    parse? item.text.toList = some item := by
  obtain ⟨source, column⟩ := item
  cases source with
  | some c =>
    have hletter := h.letter c rfl
    cases column with
    | none =>
      have htext : (text ⟨some c, none⟩).toList = [c] := by simp [text]
      rw [htext, parse?_letter_eq_some_iff hletter]
      exact ⟨⟨by decide, by simp⟩, rfl⟩
    | some n =>
      have htext : (text ⟨some c, some n⟩).toList = c :: Nat.toDigits 10 n := by simp [text]
      rw [htext, parse?_letter_eq_some_iff hletter]
      refine ⟨isColumnText_toDigits (h.column n rfl), ?_⟩
      simp [Nat.toDigits_ne_nil, digitsValue_toDigits]
  | none =>
    cases column with
    | none => exact absurd rfl (h.named rfl)
    | some n =>
      have htext : (text ⟨none, some n⟩).toList = Nat.toDigits 10 n := by simp [text]
      have hcolumn := isColumnText_toDigits (h.column n rfl)
      have hvalue := digitsValue_toDigits n
      rw [htext]
      -- The number has a first digit, and a digit is no letter.
      obtain ⟨d, rest, hdigits⟩ : ∃ d rest, Nat.toDigits 10 n = d :: rest :=
        List.exists_cons_of_ne_nil Nat.toDigits_ne_nil
      rw [hdigits] at hcolumn hvalue ⊢
      rw [parse?_number_eq_some_iff
        (not_isLetter_of_isDigit (hcolumn.isDigit d List.mem_cons_self)), hvalue]
      exact ⟨hcolumn, rfl⟩

/-- No comma stands in the text of an item, so the text is one piece of a selector. -/
theorem comma_not_mem_text {item : Item} (h : item.IsTypable) : ',' ∉ item.text.toList := by
  intro hcomma
  exact absurd ((isTypable_of_parse? (parse?_text h)).2 ',' hcomma) (by decide)

/-- The text of an item is not empty, so the piece is not skipped. -/
theorem toList_text_ne_nil {item : Item} (h : item.IsTypable) : item.text.toList ≠ [] := by
  intro hempty
  have hparse := parse?_text h
  rw [hempty] at hparse
  cases hparse

end Item

/-- A selection that a word can denote. -/
structure IsTypable (s : Selection) : Prop where
  wellFormed : s.WellFormed
  items : ∀ item ∈ s.items, item.IsTypable

/-- The pieces of a selector that have to be items. -/
def pieces (word : List Char) : List (List Char) := (splitOn ',' word).filter (!·.isEmpty)

/-- A selector is read iff all its pieces are items and there is one, and repeated items are left
out. -/
theorem parse?_eq_some_iff {word : List Char} {s : Selection} :
    parse? word = some s ↔
      ∃ items, items ≠ [] ∧ (pieces word).map Item.parse? = items.map some ∧
        s = ofItems items := by
  simp only [← mapM_eq_some_iff]
  unfold parse? pieces
  dsimp only
  cases ((splitOn ',' word).filter (!·.isEmpty)).mapM Item.parse? with
  | none => simp
  | some items =>
    cases items with
    | nil => simp
    | cons item items => simp [eq_comm]

/-- Only typable selections come from words, and a word that denotes one has no other
characters than items and commas have. -/
theorem isTypable_of_parse? {word : List Char} {s : Selection} (h : parse? word = some s) :
    s.IsTypable ∧ ∀ c ∈ word, c = ',' ∨ Item.IsNameChar c := by
  refine ⟨⟨wellFormed_of_parse? h, fun item hitem => ?_⟩, fun c hc => ?_⟩
  all_goals obtain ⟨items, -, hpieces, rfl⟩ := parse?_eq_some_iff.mp h
  · have hmem : some item ∈ (pieces word).map Item.parse? := by
      rw [hpieces]
      exact List.mem_map_of_mem (mem_of_mem_eraseDupsBy hitem)
    obtain ⟨piece, -, hparse⟩ := List.mem_map.mp hmem
    exact (Item.isTypable_of_parse? hparse).1
  · by_cases hcomma : c = ','
    · exact .inl hcomma
    · -- Every other character is in some piece, and that is not empty.
      obtain ⟨piece, hsplit, hmem⟩ : ∃ piece ∈ splitOn ',' word, c ∈ piece :=
        exists_mem_splitWhere hc (beq_eq_false_iff_ne.mpr hcomma)
      have hpiece : piece ∈ pieces word :=
        List.mem_filter.mpr ⟨hsplit, by simp [List.ne_nil_of_mem hmem]⟩
      have hitem : Item.parse? piece ∈ items.map some := by
        rw [← hpieces]
        exact List.mem_map_of_mem hpiece
      obtain ⟨item, -, hparse⟩ := List.mem_map.mp hitem
      exact .inr ((Item.isTypable_of_parse? hparse.symm).2 c hmem)

/-- The pieces of the text of a selection are its items' texts. -/
theorem pieces_text {s : Selection} (h : s.IsTypable) :
    pieces s.text.toList = s.items.map fun item => item.text.toList := by
  have hne : s.items.map Item.text ≠ [] := by simpa using h.wellFormed.1
  have hsplit : splitOn ',' s.text.toList = (s.items.map Item.text).map String.toList := by
    refine splitOn_join hne fun field hfield => ?_
    obtain ⟨item, hitem, rfl⟩ := List.mem_map.mp hfield
    exact Item.comma_not_mem_text (h.items item hitem)
  rw [pieces, hsplit, List.map_map]
  refine List.filter_eq_self.mpr fun piece hpiece => ?_
  obtain ⟨item, hitem, rfl⟩ := List.mem_map.mp hpiece
  simpa using Item.toList_text_ne_nil (h.items item hitem)

/-- A selection that can be typed is read back from its text, piece by piece. -/
theorem parse?_text {s : Selection} (h : s.IsTypable) : parse? s.text.toList = some s := by
  refine parse?_eq_some_iff.mpr ⟨s.items, h.wellFormed.1, ?_, ?_⟩
  · rw [pieces_text h, List.map_map]
    exact List.map_congr_left fun item hitem => Item.parse?_text (h.items item hitem)
  · rw [ofItems, eraseDups_eq_self h.wellFormed.2]

end Selection

/-- The words that select are the selectors, but for the one that is a word of its own. -/
theorem Intent.ofWord_eq_select_iff {word : List Char} {s : Selection} :
    ofWord word = .select (.select s) ↔ Selection.parse? word = some s ∧ word ≠ ['i'] := by
  constructor
  · intro h
    have hreading := reading_ofWord word
    rw [h] at hreading
    cases hreading with
    | select hparse =>
      refine ⟨hparse, ?_⟩
      rintro rfl
      cases h
  · rintro ⟨hparse, hne⟩
    -- The marks of the kinds that are tried before are not in a selector.
    have hchars := (Selection.isTypable_of_parse? hparse).2
    unfold ofWord
    split
    · exact absurd rfl hne
    · exact absurd (hchars 'y' List.mem_cons_self) (by decide)
    · exact absurd (hchars '-' List.mem_cons_self) (by decide)
    · exact absurd (hchars 'v' List.mem_cons_self) (by decide)
    · exact absurd (hchars 'v' List.mem_cons_self) (by decide)
    · rw [hparse]

end SeriesPlot
