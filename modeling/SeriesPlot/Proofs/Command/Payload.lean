import SeriesPlot.Proofs.Binary64.Numeral
import SeriesPlot.Proofs.Command.Parse
import SeriesPlot.Proofs.Config.WellFormed

/-!
# `SeriesPlot.Proofs.Command.Payload`: commands carry well-formed values

A value that a line puts into the state has been checked when its word was read: a selector
selects something and nothing twice, a style has a name, a width is positive, a test has an
operand, and no bound of a range is a NaN. `OptionChange.WellFormed`, `SelectionChange.WellFormed`
and `Intent.WellFormed` collect these checks.

* `Intent.Reading.wellFormed`: whatever a word is read as has passed them, one case for each kind
  of word.
* `Command.Collects.wellFormed`: a command holds nothing but payloads of its words.
* `Line.wellFormed_of_parse`: so every command that a line can be is well-formed.

That these values keep a state well-formed is in `Proofs/Update/WellFormed.lean`.
-/

set_option autoImplicit false

namespace SeriesPlot

open SeriesPlot.Text

/-- A selector selects something, and nothing twice. -/
def SelectionChange.WellFormed : SelectionChange → Prop
  | .select s => s.WellFormed
  | _ => True

/-- A value that an option sets can be plotted with. -/
def OptionChange.WellFormed : OptionChange → Prop
  | .style s => s.text ≠ ""
  | .lineWidth width => width.isFinite = true ∧ 0 < width
  | .missing test => test.WellFormed
  | _ => True

/-- The payload of an intent can be put into the state. -/
def Intent.WellFormed : Intent → Prop
  | .select change => change.WellFormed
  | .yRange range => range.WellFormed
  | .options changes => ∀ change ∈ changes, change.WellFormed
  | _ => True

/-- All that a command changes can be put into the state. -/
structure Command.WellFormed (c : Command) : Prop where
  selection : ∀ change, c.selection = some change → change.WellFormed
  yRange : ∀ range, c.yRange = some range → range.WellFormed
  options : ∀ change ∈ c.options, change.WellFormed

/-- A selector that is read selects something, and nothing twice. -/
theorem Selection.wellFormed_of_parse? {word : List Char} {s : Selection}
    (h : parse? word = some s) : s.WellFormed := by
  unfold parse? at h
  dsimp only at h
  split at h
  · cases h
  · rename_i hitems _
    cases h
    exact wellFormed_ofItems hitems
  · cases h

namespace OptionChange

/-- A value that does not fit is not set. The checks do not depend on which of its names
an option is given by. -/
theorem wellFormed_ofAssignment (name value : String) : (ofAssignment name value).WellFormed := by
  unfold ofAssignment
  split
  -- A style without a name is turned down, so one that is set is not empty.
  case h_1 | h_2 | h_3 =>
    split
    · exact trivial
    · rename_i hname
      exact PlotStyle.text_ofName_ne_empty (by simpa using hname)
  -- A width is set only if it is positive.
  case h_4 | h_5 =>
    split
    · split
      · exact Binary64.isPositive_iff.mp ‹_›
      · exact trivial
    · exact trivial
  case h_6 | h_7 =>
    split
    · exact MissingTest.wellFormed_of_parse? ‹_›
    · exact trivial
  all_goals exact trivial

/-- An option without a value restores or toggles something. -/
theorem wellFormed_ofName (name : String) : (ofName name).WellFormed := by
  unfold ofName
  split <;> exact trivial

/-- Every option of a word is checked, with a value or without. -/
theorem wellFormed_of_mem_parseList {text : List Char} {change : OptionChange}
    (h : change ∈ parseList text) : change.WellFormed := by
  obtain ⟨item, -, rfl⟩ := List.mem_map.mp h
  unfold ofItem
  split
  · exact wellFormed_ofAssignment _ _
  · exact wellFormed_ofName _

end OptionChange

namespace Intent

/-- No character of a number is the first letter of `nan`, in either case. -/
theorem toLower_ne_of_isMagnitudeChar {c : Char} (h : isMagnitudeChar c = true) :
    c.toLower ≠ 'n' := by
  simp only [isMagnitudeChar, Bool.or_eq_true, beq_iff_eq] at h
  rcases h with (hdigit | rfl) | rfl
  · have hlower : c.toLower = c := by
      unfold Char.toLower
      unfold Char.isDigit at hdigit
      grind
    rw [hlower]
    rintro rfl
    exact absurd hdigit (by decide)
  · decide
  · decide

/-- So no bound is read as a NaN. -/
theorem yBound_ne_nan {text : List Char} {bound : Option Binary64}
    (htext : text.all isMagnitudeChar = true) (h : yBound text = .ok bound) :
    bound ≠ some .nan := by
  unfold yBound at h
  split at h
  · cases h
    exact nofun
  · split at h
    · rename_i hvalue
      cases h
      -- The name of a NaN has a letter that no bound has.
      rintro ⟨⟩
      refine Binary64.ofText?_ne_nan (fun c hc => ?_) hvalue
      exact toLower_ne_of_isMagnitudeChar (List.all_eq_true.mp htext c hc)
    · cases h

/-- The bounds of a value range are texts of digits, points and minus signs. -/
theorem all_isMagnitudeChar_of_yParts? {text low high : List Char}
    (h : yParts? text = some (low, high)) :
    low.all isMagnitudeChar = true ∧ high.all isMagnitudeChar = true := by
  have hlow : (text.takeWhile isMagnitudeChar).all isMagnitudeChar = true :=
    List.all_takeWhile
  unfold yParts? at h
  dsimp only at h
  split at h
  · cases h
    exact ⟨hlow, rfl⟩
  · split at h
    · cases h
      simp_all
    · cases h

/-- Whatever a word is read as can be put into the state. -/
theorem Reading.wellFormed {word : List Char} {intent : Intent} (h : Reading word intent) :
    intent.WellFormed := by
  cases h with
  | yRange parts lowBound highBound =>
    obtain ⟨hlow, hhigh⟩ := all_isMagnitudeChar_of_yParts? parts
    exact ⟨yBound_ne_nan hlow lowBound, yBound_ne_nan hhigh highBound⟩
  | options => exact fun change => OptionChange.wellFormed_of_mem_parseList
  | select h => exact Selection.wellFormed_of_parse? h
  | _ => exact trivial

end Intent

namespace Command

variable {c : Command} {intents : List Intent}

/-! ### Which word a payload comes from -/

/-- The selection of a command is asked for by one of its words. -/
theorem Collects.mem_of_selection (h : c.Collects intents) {change : SelectionChange}
    (hchange : c.selection = some change) : .select change ∈ intents := by
  rw [h.selection] at hchange
  obtain ⟨intent, hmem, hpayload⟩ := List.mem_filterMap.mp (List.mem_of_getLast? hchange)
  cases intent <;> cases hpayload
  exact hmem

/-- So is its value range. -/
theorem Collects.mem_of_yRange (h : c.Collects intents) {range : YRange}
    (hrange : c.yRange = some range) : .yRange range ∈ intents := by
  rw [h.yRange] at hrange
  obtain ⟨intent, hmem, hpayload⟩ := List.mem_filterMap.mp (List.mem_of_getLast? hrange)
  cases intent <;> cases hpayload
  exact hmem

/-- Up to its mark, a time token is the one that its word is read as. -/
theorem Collects.exists_of_mem_times (h : c.Collects intents) {token : TimeToken}
    (htoken : token ∈ c.times) :
    ∃ parsed line, .time parsed ∈ intents ∧ token = parsed.anchoredIn line := by
  rw [h.times] at htoken
  obtain ⟨parsed, hparsed, rfl⟩ := List.mem_map.mp htoken
  exact ⟨parsed, _, mem_filterMap_time?.mp hparsed, rfl⟩

/-- Every option of a command stands in one of its option words. -/
theorem Collects.exists_of_mem_options (h : c.Collects intents) {change : OptionChange}
    (hchange : change ∈ c.options) : ∃ changes, .options changes ∈ intents ∧ change ∈ changes := by
  rw [h.options] at hchange
  obtain ⟨intent, hmem, hpayload⟩ := List.mem_flatMap.mp hchange
  cases intent with
  | options changes => exact ⟨changes, hmem, hpayload⟩
  | _ => exact absurd hpayload List.not_mem_nil

/-- A command that holds well-formed payloads is well-formed. -/
theorem Collects.wellFormed (h : c.Collects intents)
    (hintents : ∀ intent ∈ intents, intent.WellFormed) : c.WellFormed where
  selection _ hchange := hintents _ (h.mem_of_selection hchange)
  yRange _ hrange := hintents _ (h.mem_of_yRange hrange)
  options change hchange := by
    obtain ⟨changes, hmem, hpayload⟩ := h.exists_of_mem_options hchange
    exact hintents _ hmem change hpayload

end Command

/-- The command that a line is can be carried out on every state. -/
theorem Line.wellFormed_of_parse {line : String} {c : Command} (h : parse line = .command c) :
    c.WellFormed := by
  refine (collects_of_parse h).wellFormed fun intent hmem => ?_
  obtain ⟨word, hreading⟩ := Intent.reading_of_mem_asked hmem
  exact hreading.wellFormed

end SeriesPlot
