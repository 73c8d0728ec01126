import SeriesPlot.Window

/-!
# `SeriesPlot.Directive.Ticks`: labels on the time axis

The wider a window, the coarser the labels of its time axis. Each label format
serves widths up to a breakpoint; the breakpoints in months and years are
measured from the start of the window.
-/

set_option autoImplicit false

namespace SeriesPlot

/-- How finely the labels of the time axis tell the time. -/
inductive TickLabels where
  | minutes
  | hours
  | days
  | months
  | years
deriving DecidableEq, Inhabited

namespace TickLabels

/-- The label format, quoted for the plotter, which turns the two characters
`\n` into a line break. -/
def text : TickLabels → String
  | minutes => "\"%H:%M\\n%d %b\\n%Y\""
  | hours => "\"%H:00\\n%d %b\\n%Y\""
  | days => "\"%d %b\\n%Y\""
  | months => "\"%b\\n%Y\""
  | years => "\"%Y\""

/-- The widest windows that each label format serves, finest first. Wider ones
than the last are labelled with years. -/
def breakpoints : List (Binary64 × SpanUnit × TickLabels) :=
  [(8, .hour, minutes), (5.99, .day, hours), (4.516, .month, days), (6, .year, months)]

/-- The labels of a window, chosen by its width in whole seconds. -/
def ofWindow (w : Window) : TickLabels :=
  let width := w.seconds.trunc
  let serving := breakpoints.find? fun (length, unit, _) =>
    width ≤ spanSeconds length unit w.start
  (serving.map fun (_, _, labels) => labels).getD years

end TickLabels

end SeriesPlot
