import SeriesPlot.Config.Missing
import SeriesPlot.Config.Selection
import SeriesPlot.Config.Style
import SeriesPlot.Config.TextMode
import SeriesPlot.Config.YRange
import SeriesPlot.Window

/-!
# `SeriesPlot.Config`: the state of the plot

Everything that a command can change is one value, `Config`. A session starts
from `Settings`, whose style, line width and test for missing values remain the
ones that the bare options restore.
-/

set_option autoImplicit false

namespace SeriesPlot

/-- Why no state can be built. -/
inductive ConfigError where
  | invalidWindow (start stop : Instant)
  | invalidLineWidth (width : Binary64)
deriving DecidableEq

/-- What the user is told. -/
def ConfigError.message : ConfigError → String
  | invalidWindow start stop =>
    "window start " ++ start.exactText ++ " must be before window end " ++ stop.exactText
  | invalidLineWidth width => "line width must be a positive number, got " ++ width.text

/-- The values that the bare options restore. -/
structure Defaults where
  style : PlotStyle
  lineWidth : Binary64
  missing : Option MissingTest
deriving DecidableEq

/-- The state of the plot. -/
structure Config where
  window : Window
  yRange : YRange
  selection : Selection
  style : PlotStyle
  lineWidth : Binary64
  missing : Option MissingTest
  title : TextMode
  /-- The format of the labels on the time axis. -/
  ticks : TextMode
  /-- Whether directives are shown to the user before they are sent. -/
  echo : Bool
  /-- Whether the next plot has to set the title again. -/
  titleDue : Bool
  /-- Whether the next plot has to set the label format again. -/
  ticksDue : Bool
  defaults : Defaults
deriving DecidableEq

/-- The state as one line of text. -/
def Config.text (c : Config) : String :=
  "\x7bshow: " ++ (if c.echo then "true" else "false")
    ++ ", x: " ++ c.window.text
    ++ ", y: [" ++ c.yRange.text
    ++ "], vars: " ++ c.selection.text
    ++ ", style: " ++ c.style.text
    ++ ", lw: " ++ c.lineWidth.text
    ++ ", mis: " ++ ((c.missing.map MissingTest.text).getD "none")
    ++ ", title: " ++ c.title.text
    ++ ", formatx: " ++ c.ticks.text ++ "\x7d"

/-- What a session is started with; an absent setting has its usual value. -/
structure Settings where
  selection : Option Selection := none
  style : Option PlotStyle := none
  lineWidth : Option Binary64 := none
  missing : Option MissingTest := none
  title : Option TextMode := none
  ticks : Option TextMode := none
  echo : Bool := false

namespace Settings

/-- The style unless another one is asked for. -/
def usualStyle : PlotStyle := .lines

/-- The line width unless another one is asked for. -/
def usualLineWidth : Binary64 := 1

/-- The state that a session starts from. The line width has to be positive. -/
def build (s : Settings) (window : Window) : Except ConfigError Config :=
  let style := s.style.getD usualStyle
  let lineWidth := s.lineWidth.getD usualLineWidth
  if lineWidth.isPositive then
    .ok {
      window
      yRange := .auto
      selection := s.selection.getD .initial
      style
      lineWidth
      missing := s.missing
      title := s.title.getD .auto
      ticks := s.ticks.getD .auto
      echo := s.echo
      titleDue := true
      ticksDue := true
      defaults := { style, lineWidth, missing := s.missing } }
  else .error (.invalidLineWidth lineWidth)

end Settings

end SeriesPlot
