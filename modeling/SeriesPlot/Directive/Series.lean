import SeriesPlot.Config
import SeriesPlot.Directive.Title

/-!
# `SeriesPlot.Directive.Series`: what is drawn

A selection denotes series, each a column of a source. Only columns that their
source can have are drawn, and each series once, where it is first mentioned.
-/

set_option autoImplicit false

namespace SeriesPlot

/-- A column of a source. -/
structure Series where
  source : Source
  column : Nat
deriving DecidableEq, Inhabited

namespace Series

/-- Whether two series of one set of sources are the same. -/
def same (a b : Series) : Bool := a.source.letter == b.source.letter && a.column == b.column

/-- What the legend says: the column's name, or its letter and number if it has
none, and the source's letter if `tagged`. -/
def legend (s : Series) (tagged : Bool) : String :=
  let name := (s.source.columnName? s.column).getD
    (s.source.letter.toString ++ toString s.column)
  if tagged then name ++ s.source.tag else name

/-- The columns that the plotter reads: the time, and the value unless it passes
the test for missing values. -/
def columnsText (s : Series) (missing : Option MissingTest) : String :=
  let value := "$" ++ toString s.column
  let guarded := match missing with
    | some test => value ++ test.text ++ "?1/0:" ++ value
    | none => value
  toString timeColumn ++ ":(" ++ guarded ++ ")"

/-- The command that keeps the rows of a file that start with a digit; the name
of the file follows it. -/
def rowFilter : String := "<sed -n \"s/^[0-9]/&/p\" "

/-- The part of the plot directive that draws a series. -/
def clause (s : Series) (config : Config) (tagged : Bool) : String :=
  "'" ++ rowFilter ++ s.source.label ++ "' u " ++ s.columnsText config.missing
    ++ " t '" ++ s.legend tagged ++ "' w " ++ config.style.text
    ++ " lw " ++ config.lineWidth.text

end Series

namespace Selection

/-- The series that one item denotes, whether or not their sources can have the
column. -/
def Item.series (item : Item) (set : SourceSet) : List Series :=
  match item.source, item.column with
  | some letter, some column => (set.get? letter).toList.map fun source => ⟨source, column⟩
  | some letter, none =>
    (set.get? letter).toList.flatMap fun source =>
      source.columns.map fun column => ⟨source, column⟩
  | none, some column => set.sources.map fun source => ⟨source, column⟩
  | none, none => []

/-- The series that a selection draws, in order of first mention. -/
def series (s : Selection) (set : SourceSet) : List Series :=
  ((s.items.flatMap (·.series set)).filter fun drawn =>
    drawn.source.mayHave drawn.column).eraseDupsBy Series.same

end Selection

end SeriesPlot
