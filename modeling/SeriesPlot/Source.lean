import SeriesPlot.Calendar.Literal
import SeriesPlot.Config.Selection

/-!
# `SeriesPlot.Source`: one file of samples

What the program knows of a file: its letter, the names of its value columns,
and the times of its first and last sample. The samples themselves are read by
the plotter.
-/

set_option autoImplicit false

namespace SeriesPlot

/-- One input file. -/
structure Source where
  /-- The letter that commands name the source by. -/
  letter : Char
  /-- The time of the first sample. -/
  start : Instant
  /-- The time of the last sample, which may be the earlier one. -/
  stop : Instant
  /-- The names of the value columns, the first of them for column 2. There are
  none if the file has no header. -/
  names : List String
  /-- The file as the user named it. -/
  label : String
deriving DecidableEq, Inhabited

/-- The highest column number there is. -/
def columnLimit : Nat := 65535

/-- A column number as it is stored. There are 16 bits for it, so 0 comes after the highest
one. -/
def wrapColumn (n : Nat) : Nat := n % (columnLimit + 1)

namespace Source

/-- The number of the last column; the time column if no column has a name. More names than
there are column numbers count as two fewer than these, and the sum is stored as a column
number. So it is 0 for exactly as many names as the highest column number says. -/
def lastColumn (s : Source) : Nat :=
  let count := if s.names.length ≤ columnLimit then s.names.length
    else columnLimit - firstValueColumn
  wrapColumn (timeColumn + count)

/-- The numbers of the value columns. -/
def columns (s : Source) : List Nat :=
  List.range' firstValueColumn (s.lastColumn + 1 - firstValueColumn)

/-- The name of a value column. -/
def columnName? (s : Source) (column : Nat) : Option String :=
  if column < firstValueColumn then none else s.names[column - firstValueColumn]?

/-- Whether the source can have a column of this number. A source without a
header can have any value column. -/
def mayHave (s : Source) (column : Nat) : Bool :=
  firstValueColumn ≤ column && (s.names.isEmpty || column ≤ s.lastColumn)

end Source

/-- Why a file cannot be read. -/
inductive FileError where
  | notFound
  | isDirectory
  /-- A path goes on after a file. -/
  | notDirectory
  | nameTooLong
  /-- A path holds the null character. -/
  | invalidName
deriving DecidableEq

/-- What the operating system says. -/
def FileError.message : FileError → String
  | notFound => "No such file or directory (os error 2)"
  | isDirectory => "Is a directory (os error 21)"
  | notDirectory => "Not a directory (os error 20)"
  | nameTooLong => "File name too long (os error 36)"
  | invalidName => "file name contained an unexpected NUL byte"

/-- The letters of the sources, in the order in which they are given out. -/
def sourceLetters : List Char :=
  ['a', 'b', 'c', 'd', 'e', 'f', 'g', 'h', 'i', 'j', 'k', 'l', 'm', 'n', 'o', 'p', 'q', 'r', 's']

/-- Why there are no sources to plot. -/
inductive SourceError where
  | unreadable (label : String) (cause : FileError)
  | noSamples (label : String)
  | badTime (label : String) (cause : TimeError)
  | tooMany (count : Nat)
  | noFiles
  | emptySpan
deriving DecidableEq

/-- What the user is told. -/
def SourceError.message : SourceError → String
  | unreadable label cause => "failed to read '" ++ label ++ "': " ++ cause.message
  | noSamples label => "'" ++ label ++ "' has no data rows in its first or last lines"
  | badTime label cause => "'" ++ label ++ "': " ++ cause.message
  | tooMany count =>
    "too many input files: " ++ toString count ++ " given, at most "
      ++ toString sourceLetters.length ++ " supported"
  | noFiles => "no input files"
  | emptySpan => "combined time span of all files is empty"

end SeriesPlot
