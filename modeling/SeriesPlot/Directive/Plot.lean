import SeriesPlot.Directive.Series
import SeriesPlot.Directive.Ticks

/-!
# `SeriesPlot.Directive.Plot`: from the state to a plot

A plot is the directive that draws the selected series, preceded by the
directives for the title and the labels of the time axis when these are due.
There is no plot if nothing selected can be drawn.
-/

set_option autoImplicit false

namespace SeriesPlot

namespace Config

/-- The directive that sets the title; none if it is to be derived and no source
is selected. -/
def titleDirective? (c : Config) (set : SourceSet) : Option String :=
  match c.title with
  | .off => some "set title"
  | .auto => (c.selection.title? set).map fun title => "set title \"" ++ title ++ "\""
  | .literal text => some ("set title " ++ text)

/-- The directive that sets the label format of the time axis. -/
def ticksDirective (c : Config) : String :=
  match c.ticks with
  | .off => "set format x"
  | .auto => "set format x " ++ (TickLabels.ofWindow c.window).text
  | .literal text => "set format x " ++ text

/-- The directive that draws some series. -/
def drawDirective (c : Config) (set : SourceSet) (series : List Series) : String :=
  let tagged := 1 < (c.selection.activeSources set).length
  "plot ['" ++ c.window.start.minuteText ++ "':'" ++ c.window.stop.minuteText
    ++ "'][" ++ c.yRange.text ++ "] "
    ++ Text.join ", " (series.map fun s => s.clause c tagged)

end Config

/-- The directives of one plot. -/
structure Plot where
  /-- The directive for the title, if it is due. -/
  title : Option String
  /-- The directive for the labels of the time axis, if it is due. -/
  ticks : Option String
  /-- The directive that draws the series. -/
  draw : String
deriving DecidableEq

namespace Plot

/-- The directives before the one that draws. -/
def preamble (p : Plot) : List String := p.title.toList ++ p.ticks.toList

/-- All directives on one line. -/
def line (p : Plot) : String := Text.join "; " (p.preamble ++ [p.draw])

/-- The plot of a state; none if nothing selected can be drawn. -/
def ofConfig? (c : Config) (set : SourceSet) : Option Plot := do
  let title ← if c.titleDue then (c.titleDirective? set).map some else some none
  let ticks := if c.ticksDue then some c.ticksDirective else none
  match c.selection.series set with
  | [] => none
  | series => some { title, ticks, draw := c.drawDirective set series }

end Plot

end SeriesPlot
