import SeriesPlot.Binary64.Shortest

/-!
# `SeriesPlot.Config.YRange`: the range of values on display

Each side of the value axis has a bound or is left to the plotter.
-/

set_option autoImplicit false

namespace SeriesPlot

/-- Bounds of the value axis; an absent one is chosen by the plotter. -/
structure YRange where
  low : Option Binary64 := none
  high : Option Binary64 := none
deriving DecidableEq, Inhabited

namespace YRange

/-- Both sides left to the plotter. -/
def auto : YRange := {}

/-- Whether both sides are left to the plotter. -/
def isAuto (r : YRange) : Bool := r.low.isNone && r.high.isNone

/-- The text of one side; an absent bound has none. -/
def sideText : Option Binary64 → String
  | some x => x.text
  | none => ""

/-- The bounds around a colon. -/
def text (r : YRange) : String := sideText r.low ++ ":" ++ sideText r.high

end YRange

end SeriesPlot
