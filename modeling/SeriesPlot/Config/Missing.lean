import SeriesPlot.Binary64.Numeral
import SeriesPlot.Text.Blank

/-!
# `SeriesPlot.Config.Missing`: which values count as missing

A test for missing values compares a value with an operand: `==-999`, `<= 0`. A
bare number is a test for equality with it.
-/

set_option autoImplicit false

namespace SeriesPlot

open SeriesPlot.Text

/-- The comparisons that a test can make. -/
inductive Comparison where
  | equal
  | unequal
  | atMost
  | atLeast
  | less
  | greater
deriving DecidableEq, Inhabited

namespace Comparison

/-- The operator of a comparison. -/
def symbol : Comparison → List Char
  | equal => ['=', '=']
  | unequal => ['!', '=']
  | atMost => ['<', '=']
  | atLeast => ['>', '=']
  | less => ['<']
  | greater => ['>']

/-- All comparisons. Those with a longer operator come first, so that the first
operator that a text starts with is the longest. -/
def all : List Comparison := [equal, unequal, atMost, atLeast, less, greater]

end Comparison

/-- A test that a missing value passes. -/
structure MissingTest where
  comparison : Comparison
  operand : String
deriving DecidableEq, Inhabited

namespace MissingTest

/-- The test that a text expresses: a comparison with an operand, or a number. -/
def parse? (text : String) : Option MissingTest :=
  let trimmed := trim text.toList
  match Comparison.all.find? (·.symbol.isPrefixOf trimmed) with
  | some comparison =>
    let operand := trim (trimmed.drop comparison.symbol.length)
    if operand.isEmpty then none else some ⟨comparison, String.ofList operand⟩
  | none =>
    (Binary64.ofText? trimmed).map fun _ => ⟨.equal, String.ofList trimmed⟩

/-- The operator and the operand, with no space between them. -/
def text (m : MissingTest) : String := String.ofList m.comparison.symbol ++ m.operand

end MissingTest

end SeriesPlot
