import SeriesPlot.Config.Selection
import SeriesPlot.Text.Digits

/-!
# `SeriesPlot.Command.Selector`: words that select columns

A selector is a comma-separated list of items: a source's letter with up to
three digits after it, or up to three digits alone. Empty items are skipped, but
not all of them may be empty.
-/

set_option autoImplicit false

namespace SeriesPlot

open SeriesPlot.Text

/-- A change of the selection. -/
inductive SelectionChange where
  | select (selection : Selection)
  /-- `vn`: the next column. -/
  | next
  /-- `vp`: the previous column. -/
  | previous
deriving DecidableEq, Inhabited

namespace Selection

/-- The item that a text that is not empty denotes. -/
def Item.parse? (text : List Char) : Option Item :=
  let ofParts (source : Option Char) (digits : List Char) : Option Item :=
    if 3 < digits.length ∨ !digits.all Char.isDigit then none
    else some ⟨source, if digits.isEmpty then none else some (digitsValue digits)⟩
  match text with
  | [] => none
  | c :: rest => if 'a' ≤ c ∧ c ≤ 's' then ofParts (some c) rest else ofParts none (c :: rest)

/-- The selection that a word denotes. -/
def parse? (word : List Char) : Option Selection :=
  let pieces := (splitOn ',' word).filter (!·.isEmpty)
  match pieces.mapM Item.parse? with
  | some [] => none
  | some items => some (ofItems items)
  | none => none

end Selection

end SeriesPlot
