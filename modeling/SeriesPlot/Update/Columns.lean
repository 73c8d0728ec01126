import SeriesPlot.Source.Set
import SeriesPlot.Update.Notice

/-!
# `SeriesPlot.Update.Columns`: stepping through the columns

A step moves the whole selection to one column, the one after or before the
first column it names. The column stays within what all selected sources have;
sources without a header do not limit it. If that leaves no column, which takes
a source with as many names as there are column numbers, the program aborts.
-/

set_option autoImplicit false

namespace SeriesPlot

namespace Selection

/-- The letters that a column step is about: those of the selection, or of all
sources if it has none. -/
def steppedLetters (s : Selection) (set : SourceSet) : List Char :=
  if s.letters.isEmpty then set.sources.map (·.letter) else s.letters

/-- The highest column that all of some sources have. -/
def commonLastColumn (sources : List Source) : Nat :=
  ((sources.filter (!·.names.isEmpty)).map (·.lastColumn)).foldl min columnLimit

/-- The selection of one column, of the same letters or of every source. -/
def atColumn (s : Selection) (column : Nat) : Selection :=
  if s.letters.isEmpty then ofItems [⟨none, some column⟩]
  else ofItems (s.letters.map fun letter => ⟨some letter, some column⟩)

/-- The column that a step leads to, between the first value column and `last`, which has to
come after it. -/
def steppedColumn (s : Selection) (last : Nat) (forward : Bool) : Nat :=
  let column := s.firstColumn?.getD firstValueColumn
  let stepped := if forward then column + 1 else column - 1
  max firstValueColumn (min last stepped)

/-- The selection one column on or back, and what the user is told: the letters
without a source, and that there is nothing to step through if none has one. -/
def step (s : Selection) (set : SourceSet) (forward : Bool) : Selection × List Notice :=
  let letters := s.steppedLetters set
  let missing := (letters.filter fun c => (set.get? c).isNone).map Notice.noSuchSource
  match letters.filterMap set.get? with
  | [] => (s, missing ++ [.noFileExists])
  | sources => (s.atColumn (s.steppedColumn (commonLastColumn sources) forward), missing)

/-- Whether the program aborts over a step: the last column that all sources have comes before
the first value column, so there is no column between the two. -/
def stepAborts (s : Selection) (set : SourceSet) : Bool :=
  commonLastColumn ((s.steppedLetters set).filterMap set.get?) < firstValueColumn

/-- The selection after a change, and what the user is told. -/
def change (s : Selection) (set : SourceSet) : SelectionChange → Selection × List Notice
  | .select selection => (selection, [])
  | .next => s.step set true
  | .previous => s.step set false

/-- Whether the program aborts over a change. -/
def changeAborts (s : Selection) (set : SourceSet) : SelectionChange → Bool
  | .select _ => false
  | .next => s.stepAborts set
  | .previous => s.stepAborts set

end Selection

end SeriesPlot
