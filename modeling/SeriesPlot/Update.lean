import SeriesPlot.Config
import SeriesPlot.Update.Columns
import SeriesPlot.Update.Edges

/-!
# `SeriesPlot.Update`: what a command does

A command changes the selection, the window, the value range and the options,
each by the words of its own kind. The directives for the title and the time
labels are due again if their text may have changed.
-/

set_option autoImplicit false

namespace SeriesPlot

namespace OptionChange

/-- The state after an option. -/
def apply (c : Config) : OptionChange → Config
  | style s => { c with style := s }
  | resetStyle => { c with style := c.defaults.style }
  | lineWidth width => { c with lineWidth := width }
  | resetLineWidth => { c with lineWidth := c.defaults.lineWidth }
  | missing test => { c with missing := some test }
  | resetMissing => { c with missing := c.defaults.missing }
  | ticks text => { c with ticks := .literal text }
  | toggleTicks => { c with ticks := c.ticks.toggled }
  | title text => { c with title := .literal text }
  | toggleTitle => { c with title := c.title.toggled }
  | toggleEcho => { c with echo := !c.echo }
  | unsupported _ => c
  | invalidValue _ _ => c

/-- What the user is told about an option. -/
def notice? : OptionChange → Option Notice
  | unsupported name => some (.unsupportedOption name)
  | invalidValue name value => some (.invalidOptionValue name value)
  | _ => none

end OptionChange

/-- What a command does: the state after it, and what the user is told. -/
structure Update where
  config : Config
  notices : List Notice
deriving DecidableEq

namespace Config

/-- Whether the title directive may have changed from one state to another. -/
def titleChanged (before after : Config) : Bool :=
  before.title != after.title
    || (after.title == .auto && before.selection != after.selection)

/-- Whether the directive for the time labels may have changed from one state to
another. Derived labels are taken to depend on the width of the window. -/
def ticksChanged (before after : Config) : Bool :=
  before.ticks != after.ticks
    || (after.ticks == .auto && before.window.widthMillis != after.window.widthMillis)

/-- Whether the program aborts over a command. -/
def aborts (c : Config) (set : SourceSet) (command : Command) : Bool :=
  command.selection.any (c.selection.changeAborts set)

/-- What a command does with a state, if the program does not abort over it. -/
def update (c : Config) (set : SourceSet) (command : Command) : Update :=
  let (selection, selectionNotices) := match command.selection with
    | some change => c.selection.change set change
    | none => (c.selection, [])
  let (window, windowNotices) := match command.times with
    | [] => (c.window, [])
    | times => c.window.change set times
  let changed := { c with selection, window, yRange := command.yRange.getD c.yRange }
  let config := command.options.foldl OptionChange.apply changed
  { config := { config with
      titleDue := titleChanged c config
      ticksDue := ticksChanged c config }
    notices := command.unknown.map Notice.unknownWord
      ++ command.invalid.map Notice.invalidWord
      ++ selectionNotices ++ windowNotices
      ++ command.options.filterMap OptionChange.notice? }

end Config

end SeriesPlot
