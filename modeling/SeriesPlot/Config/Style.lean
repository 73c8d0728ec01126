import SeriesPlot.Text.Blank

/-!
# `SeriesPlot.Config.Style`: how series are drawn

The styles with a name of their own, and any other text for the plotter to make
sense of.
-/

set_option autoImplicit false

namespace SeriesPlot

open SeriesPlot.Text

/-- How a series is drawn. -/
inductive PlotStyle where
  | lines
  | points
  | linesPoints
  | dots
  | impulses
  | steps
  | boxes
  | other (name : String)
deriving DecidableEq, Inhabited

namespace PlotStyle

/-- The style of a name or abbreviation, in any letter case and with white space
around it. Any other name is kept as it is, without the white space. -/
def ofName (name : String) : PlotStyle :=
  let trimmed := trim name.toList
  match String.ofList (trimmed.map Char.toLower) with
  | "lines" | "l" => lines
  | "points" | "p" => points
  | "linespoints" | "lp" => linesPoints
  | "dots" | "d" => dots
  | "impulses" | "i" => impulses
  | "steps" => steps
  | "boxes" => boxes
  | _ => other (String.ofList trimmed)

/-- The name that the plotter knows. -/
def text : PlotStyle → String
  | lines => "lines"
  | points => "points"
  | linesPoints => "linespoints"
  | dots => "dots"
  | impulses => "impulses"
  | steps => "steps"
  | boxes => "boxes"
  | other name => name

end PlotStyle

end SeriesPlot
