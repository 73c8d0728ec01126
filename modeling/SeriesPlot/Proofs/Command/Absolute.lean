import SeriesPlot.Proofs.Command.Payload

/-!
# `SeriesPlot.Proofs.Command.Absolute`: words that say what is to be

Most words set a part of the state to what they say, or to what the state restores, whatever
it was before. The others change what there is: a step to the next column, a toggle, a move
of the window. `Line.IsAbsolute` says of a line that none of its words is of the second sort.
It can be decided, as it goes through the words one by one.

* `Command.IsAbsolute`: the same of a command, part by part.
* `Line.isAbsolute_of_parse`: an absolute line that is a command is an absolute one. A command
  holds nothing but what its words ask for (`Command.Collects.isAbsolute`), and the mark that a
  token gets from the rest of its line does not make it read the edges.

What an absolute command does when it is given twice is in `Proofs/Update/Absolute.lean`.
-/

set_option autoImplicit false

namespace SeriesPlot

open SeriesPlot.Text

/-- A selector that does not step from the column before. -/
def SelectionChange.IsAbsolute : SelectionChange → Prop
  | .select _ => True
  | .next => False
  | .previous => False

instance : DecidablePred SelectionChange.IsAbsolute
  | .select _ => .isTrue trivial
  | .next | .previous => .isFalse id

/-- An option that is no toggle. -/
def OptionChange.IsAbsolute : OptionChange → Prop
  | .toggleTicks => False
  | .toggleTitle => False
  | .toggleEcho => False
  | _ => True

instance : DecidablePred OptionChange.IsAbsolute
  | .toggleTicks | .toggleTitle | .toggleEcho => .isFalse id
  | .style _ | .resetStyle | .lineWidth _ | .resetLineWidth | .missing _ | .resetMissing
  | .ticks _ | .title _ | .unsupported _ | .invalidValue _ _ => .isTrue trivial

/-- A time token that does not read the edges. -/
def TimeToken.IsAbsolute : TimeToken → Prop
  | .centre _ => False
  | .shift _ => False
  | _ => True

instance : DecidablePred TimeToken.IsAbsolute
  | .centre _ | .shift _ => .isFalse id
  | .start _ | .stop _ | .full | .overlap | .source _ => .isTrue trivial

/-- A word that does not read the state that it changes. -/
def Intent.IsAbsolute : Intent → Prop
  | .select change => change.IsAbsolute
  | .time token => token.IsAbsolute
  | .options changes => ∀ change ∈ changes, change.IsAbsolute
  | _ => True

instance : DecidablePred Intent.IsAbsolute
  | .select change => inferInstanceAs (Decidable change.IsAbsolute)
  | .time token => inferInstanceAs (Decidable token.IsAbsolute)
  | .options changes => inferInstanceAs (Decidable (∀ change ∈ changes, change.IsAbsolute))
  | .info | .yRange _ | .invalid _ | .unknown _ => .isTrue trivial

/-- A command that only says what is to be. -/
structure Command.IsAbsolute (c : Command) : Prop where
  selection : ∀ change, c.selection = some change → change.IsAbsolute
  times : ∀ token ∈ c.times, token.IsAbsolute
  options : ∀ change ∈ c.options, change.IsAbsolute

/-- A line all of whose words only say what is to be. -/
def Line.IsAbsolute (line : String) : Prop :=
  ∀ word ∈ words (trim line.toList), (Intent.ofWord word).IsAbsolute

instance (line : String) : Decidable (Line.IsAbsolute line) :=
  inferInstanceAs (Decidable (∀ word ∈ words (trim line.toList), (Intent.ofWord word).IsAbsolute))

/-- The mark of a token makes no difference. -/
theorem TimeToken.isAbsolute_anchoredIn {line : List TimeToken} {token : TimeToken}
    (h : token.IsAbsolute) : (token.anchoredIn line).IsAbsolute := by
  cases token with
  | shift s => exact h.elim
  | _ => exact h

/-- A command is absolute if all words that it is made of are. -/
theorem Command.Collects.isAbsolute {c : Command} {intents : List Intent}
    (h : c.Collects intents) (hintents : ∀ intent ∈ intents, intent.IsAbsolute) :
    c.IsAbsolute where
  selection _ hchange := hintents _ (h.mem_of_selection hchange)
  times token htoken := by
    obtain ⟨parsed, line, hmem, rfl⟩ := h.exists_of_mem_times htoken
    exact TimeToken.isAbsolute_anchoredIn (hintents _ hmem)
  options change hchange := by
    obtain ⟨changes, hmem, hpayload⟩ := h.exists_of_mem_options hchange
    exact hintents _ hmem change hpayload

/-- So the command of an absolute line is absolute. -/
theorem Line.isAbsolute_of_parse {line : String} {c : Command} (h : IsAbsolute line)
    (hparse : parse line = .command c) : c.IsAbsolute := by
  refine (collects_of_parse hparse).isAbsolute fun intent hmem => ?_
  obtain ⟨word, hword, rfl⟩ := Intent.exists_ofWord_of_mem_asked hmem
  exact h word hword

end SeriesPlot
