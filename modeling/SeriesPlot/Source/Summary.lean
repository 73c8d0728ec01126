import SeriesPlot.Source.Set

/-!
# `SeriesPlot.Source.Summary`: the sources in words

The overview that `i` asks for: every source with its columns, the time range of
each source, and the two common windows.
-/

set_option autoImplicit false

namespace SeriesPlot

/-- A text filled up with spaces to at least `width` characters. -/
def padEnd (width : Nat) (text : String) : String :=
  text ++ String.ofList (List.replicate (width - text.length) ' ')

namespace Source

/-- The line of one column. -/
def columnLine (s : Source) (column : Nat) (name : String) : String :=
  "  " ++ s.letter.toString ++ padEnd 2 (toString column) ++ " = " ++ name ++ "\n"

/-- The label of a source and the names of its columns. -/
def columnsText (s : Source) : String :=
  s.letter.toString ++ " = " ++ s.label ++ "\n"
    ++ String.join (s.names.mapIdx fun i name =>
      s.columnLine (wrapColumn (firstValueColumn + i)) name) ++ "\n"

/-- The time range of a source, named as a command names it. -/
def rangeLine (s : Source) : String :=
  "t" ++ s.letter.toString ++ " = " ++ s.start.minuteText ++ " -> " ++ s.stop.minuteText ++ "\n"

end Source

/-- The overview of all sources. -/
def SourceSet.summary (set : SourceSet) : String :=
  "\n" ++ String.join (set.sources.map Source.columnsText)
    ++ String.join (set.sources.map Source.rangeLine) ++ "\n"
    ++ "t  = " ++ set.union.text ++ "\n"
    ++ "tv = " ++ ((set.overlap.map Window.text).getD "nil") ++ "\n"

end SeriesPlot
