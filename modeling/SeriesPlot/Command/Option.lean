import SeriesPlot.Binary64.Arithmetic
import SeriesPlot.Config.Missing
import SeriesPlot.Config.Style
import SeriesPlot.Text.Split

/-!
# `SeriesPlot.Command.Option`: plot options

A word that starts with a hyphen is a comma-separated list of options, each a
bare name or a name with a value after an equals sign. A bare name restores the
initial value or toggles a mode.
-/

set_option autoImplicit false

namespace SeriesPlot

open SeriesPlot.Text

/-- What one option asks for. -/
inductive OptionChange where
  | style (style : PlotStyle)
  | resetStyle
  | lineWidth (width : Binary64)
  | resetLineWidth
  | missing (test : MissingTest)
  | resetMissing
  | ticks (text : String)
  | toggleTicks
  | title (text : String)
  | toggleTitle
  | toggleEcho
  /-- No such option; the name of an assignment ends with its equals sign. -/
  | unsupported (name : String)
  | invalidValue (name value : String)
deriving DecidableEq, Inhabited

namespace OptionChange

/-- What an option with a value asks for. -/
def ofAssignment (name value : String) : OptionChange :=
  match name with
  | "style" | "linestyle" | "ls" =>
    if (trim value.toList).isEmpty then invalidValue name value else style (.ofName value)
  | "linewidth" | "lw" =>
    match Binary64.ofText? (trim value.toList) with
    | some width => if width.isPositive then lineWidth width else invalidValue name value
    | none => invalidValue name value
  | "mis" | "miss" =>
    match MissingTest.parse? value with
    | some test => missing test
    | none => invalidValue name value
  | "formatx" => ticks value
  | "title" => title value
  | _ => unsupported (name ++ "=")

/-- What a bare option asks for. -/
def ofName (name : String) : OptionChange :=
  match name with
  | "show" | "s" => toggleEcho
  | "style" | "linestyle" | "ls" => resetStyle
  | "linewidth" | "lw" => resetLineWidth
  | "mis" | "miss" => resetMissing
  | "formatx" => toggleTicks
  | "title" => toggleTitle
  | _ => unsupported name

/-- What one item of the list asks for. -/
def ofItem (item : List Char) : OptionChange :=
  match cutAt? '=' item with
  | some (name, value) => ofAssignment (String.ofList name) (String.ofList value)
  | none => ofName (String.ofList item)

/-- What a list of options asks for; empty items ask for nothing. -/
def parseList (text : List Char) : List OptionChange :=
  ((splitOn ',' text).filter (!·.isEmpty)).map ofItem

end OptionChange

end SeriesPlot
