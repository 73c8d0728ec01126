import SeriesPlot.Directive.Plot

/-!
# `SeriesPlot.Directive`: what is sent to the plotter

The plotter gets one line at a time: the lines that prepare it, the plots, a
user's own lines, and an empty line where there is nothing to plot.
-/

set_option autoImplicit false

namespace SeriesPlot

/-- One line for the plotter. -/
inductive Directive where
  /-- Prepares the plotter before the first plot. -/
  | setup (text : String)
  | plot (p : Plot)
  /-- Stands for a plot without series. -/
  | empty
  /-- A line of the user's, not understood here. -/
  | verbatim (text : String)
deriving DecidableEq

namespace Directive

/-- The line as the plotter gets it. -/
def text : Directive → String
  | setup text => text
  | plot p => p.line
  | empty => ""
  | verbatim text => text

/-- The lines that prepare the plotter: how times and columns are written in the
files, and a grid and border that stay in the background. -/
def setupLines : List String :=
  ["set xdata time",
   "set timefmt '%Y-%m-%d %H:%M:%S'",
   "set datafile separator \",\"",
   "set grid front",
   "set style line 80 lt rgb \"#808080\"",
   "set style line 81 lt 0",
   "set style line 81 lt rgb \"#808080\"",
   "set border 15 back linestyle 80",
   "set grid front linestyle 81"]

end Directive

end SeriesPlot
