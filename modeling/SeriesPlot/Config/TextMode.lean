/-!
# `SeriesPlot.Config.TextMode`: where a text comes from

The title and the format of the time labels are each left to the plotter,
derived from the plot, or given by the user.
-/

set_option autoImplicit false

namespace SeriesPlot

/-- Where the title or the label format comes from. -/
inductive TextMode where
  /-- Left to the plotter. -/
  | off
  /-- Derived from what is plotted. -/
  | auto
  /-- Given by the user, used as it is. -/
  | literal (text : String)
deriving DecidableEq, Inhabited

namespace TextMode

/-- What a bare flag does: it turns `auto` off and anything else to `auto`. -/
def toggled : TextMode → TextMode
  | auto => off
  | _ => auto

/-- The text of a mode in the summary of the state. -/
def text : TextMode → String
  | off => "none"
  | auto => "auto"
  | literal text => text

end TextMode

end SeriesPlot
