import SeriesPlot.Proofs.Command.Payload
import SeriesPlot.Proofs.Directive.OneLine
import SeriesPlot.Proofs.Text.Words

/-!
# `SeriesPlot.Proofs.Command.OneLine`: the texts that a line sets

The plotter takes a line feed for the end of a command, so no text that gets into one may have a
line feed. An option takes its text from its line, without white space around it or with an
operator in front.

* `OptionChange.oneLine_ofAssignment`: an option with a value sets that value, a part of it, or a
  name of the plotter.
* `Line.oneLine_of_parse`: so on a line without a line feed no text that is set has one. Each
  option of a command stands in one of the words of the line, and each word in the line.
* `Line.oneLine_of_parse_eq_verbatim`: a line that is handed to the plotter is the line itself
  without the white space around it.
-/

set_option autoImplicit false

namespace SeriesPlot

open SeriesPlot.Text

/-- Trimming adds no line feed. -/
theorem Text.oneLine_trim {text : String} (h : OneLine text) :
    OneLine (String.ofList (trim text.toList)) := by
  intro hmem
  rw [String.toList_ofList] at hmem
  exact h (mem_of_mem_trim hmem)

/-- A style is written with a name of the plotter or with its own one. -/
theorem PlotStyle.oneLine_text_ofName {name : String} (h : OneLine name) :
    OneLine (ofName name).text := by
  unfold ofName
  dsimp only
  split
  case h_13 => exact oneLine_trim h
  all_goals decide

/-- A test for missing values is written with an operator and what is left of the text. -/
theorem MissingTest.oneLine_text_of_parse? {text : String} {test : MissingTest}
    (h : OneLine text) (htest : parse? text = some test) : OneLine test.text := by
  have hsymbol : ∀ comparison : Comparison, OneLine (String.ofList comparison.symbol) := by
    intro comparison
    cases comparison <;> decide
  have hoperand : OneLine test.operand := by
    unfold parse? at htest
    dsimp only at htest
    -- The operand is what follows the operator, or the whole text.
    split at htest
    · split at htest
      · cases htest
      · cases htest
        intro hmem
        rw [String.toList_ofList] at hmem
        exact h (mem_of_mem_trim (List.mem_of_mem_drop (mem_of_mem_trim hmem)))
    · obtain ⟨value, -, rfl⟩ := Option.map_eq_some_iff.mp htest
      exact oneLine_trim h
  exact oneLine_append.mpr ⟨hsymbol _, hoperand⟩

namespace OptionChange

/-- No text that an option sets has a line feed. -/
def OneLine : OptionChange → Prop
  | .style s => Text.OneLine s.text
  | .missing test => Text.OneLine test.text
  | .ticks text | .title text => Text.OneLine text
  | _ => True

/-- An option sets its value or a text made of it. -/
theorem oneLine_ofAssignment (name : String) {value : String} (h : Text.OneLine value) :
    (ofAssignment name value).OneLine := by
  unfold ofAssignment
  split
  -- A style may be any text of the user, and the name of one is looked up.
  case h_1 | h_2 | h_3 =>
    split
    · exact trivial
    · exact PlotStyle.oneLine_text_ofName h
  -- A number leaves no text.
  case h_4 | h_5 =>
    split
    · split <;> exact trivial
    · exact trivial
  case h_6 | h_7 =>
    split
    · exact MissingTest.oneLine_text_of_parse? h ‹_›
    · exact trivial
  -- The tick labels and the title are the value itself.
  case h_8 | h_9 => exact h
  case h_10 => exact trivial

/-- An option without a value restores a text or sets none. -/
theorem oneLine_ofName (name : String) : (ofName name).OneLine := by
  unfold ofName
  split <;> exact trivial

/-- The options of a word are pieces of it. -/
theorem oneLine_of_mem_parseList {text : List Char} (h : '\n' ∉ text) {change : OptionChange}
    (hchange : change ∈ parseList text) : change.OneLine := by
  obtain ⟨item, hitem, rfl⟩ := List.mem_map.mp hchange
  have hnotMem : '\n' ∉ item :=
    fun hmem => h (mem_of_mem_splitWhere (List.mem_filter.mp hitem).1 hmem)
  unfold ofItem
  split
  · rename_i hcut
    refine oneLine_ofAssignment _ fun hmem => ?_
    rw [String.toList_ofList] at hmem
    exact hnotMem ((mem_of_cutAt?_eq_some hcut).2 hmem)
  · exact oneLine_ofName _

end OptionChange

/-- The texts that a command sets have no line feed. -/
theorem Line.oneLine_of_parse {line : String} (h : Text.OneLine line) {c : Command}
    (hparse : parse line = .command c) : ∀ change ∈ c.options, change.OneLine := by
  intro change hchange
  obtain ⟨changes, hmem, hpayload⟩ := (collects_of_parse hparse).exists_of_mem_options hchange
  obtain ⟨word, hword, hintent⟩ := Intent.exists_ofWord_of_mem_asked hmem
  have hreading := Intent.reading_ofWord word
  rw [hintent] at hreading
  cases hreading
  refine OptionChange.oneLine_of_mem_parseList (fun hmem => ?_) hpayload
  exact h (mem_of_mem_trim (mem_of_mem_words hword (List.mem_of_mem_tail hmem)))

/-- A line for the plotter has no line feed. -/
theorem Line.oneLine_of_parse_eq_verbatim {line text : String} (h : Text.OneLine line)
    (hparse : parse line = .verbatim text) : Text.OneLine text := by
  rw [eq_of_parse_eq_verbatim hparse]
  exact oneLine_trim h

end SeriesPlot
