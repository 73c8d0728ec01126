import SeriesPlot.Text.Split

/-!
# `SeriesPlot.Config.Selection`: which series are drawn

A selection is a list of items without repetition. An item names a column of one
source, one column of every source, or every column of one source.
-/

set_option autoImplicit false

namespace SeriesPlot

/-- The column that holds the time. Columns count from 1. -/
def timeColumn : Nat := 1

/-- The first column that holds values. -/
def firstValueColumn : Nat := timeColumn + 1

/-- One entry of a selection. `a2` is a column of one source, `2` that column of
every source, and `a` every column of one source. -/
structure Selection.Item where
  source : Option Char
  column : Option Nat
deriving DecidableEq, Inhabited

/-- The items to draw, in order and without repetition. -/
structure Selection where
  items : List Selection.Item
deriving DecidableEq, Inhabited

namespace Selection

/-- The text of an item: the letter and the column, as far as it has them. -/
def Item.text (item : Item) : String :=
  let letter := match item.source with
    | some c => c.toString
    | none => ""
  let number := match item.column with
    | some n => toString n
    | none => ""
  letter ++ number

/-- The selection of some items; only the first of equal ones is kept. -/
def ofItems (items : List Item) : Selection := ⟨items.eraseDups⟩

/-- One column of one source. -/
def single (source : Char) (column : Nat) : Selection := ⟨[⟨some source, some column⟩]⟩

/-- What is drawn at first: the first value column of the first source. -/
def initial : Selection := single 'a' firstValueColumn

/-- The letters of the named sources, in order of first mention. -/
def letters (s : Selection) : List Char := (s.items.filterMap (·.source)).eraseDups

/-- Whether some item names a column of every source. -/
def spansAllSources (s : Selection) : Bool := s.items.any (·.source.isNone)

/-- The first column that an item names. -/
def firstColumn? (s : Selection) : Option Nat := s.items.findSome? (·.column)

/-- The items with commas between them. -/
def text (s : Selection) : String := Text.join "," (s.items.map Item.text)

end Selection

end SeriesPlot
