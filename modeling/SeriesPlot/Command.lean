import SeriesPlot.Command.Intent
import SeriesPlot.Text.Split

/-!
# `SeriesPlot.Command`: what a line asks for

A line is blank, ends the session, is a command, or is meant for the plotter. A
line is a command if its words ask for something and it does not begin with an
unknown word; `i` ends a command. The words of each kind have a place of their
own in the command, so their order matters only within a kind.
-/

set_option autoImplicit false

namespace SeriesPlot

open SeriesPlot.Text

/-- What the words of one line ask for together. -/
structure Command where
  info : Bool := false
  /-- The last selector of the line. -/
  selection : Option SelectionChange := none
  times : List TimeToken := []
  /-- The last value range of the line. -/
  yRange : Option YRange := none
  options : List OptionChange := []
  invalid : List InvalidWord := []
  unknown : List String := []
deriving DecidableEq

namespace Command

/-- Whether the state of the plot may change. -/
def hasChanges (c : Command) : Bool :=
  c.selection.isSome || !c.times.isEmpty || c.yRange.isSome || !c.options.isEmpty

/-- Whether some word was of a known kind. -/
def isRecognised (c : Command) : Bool := c.info || c.hasChanges || !c.invalid.isEmpty

/-- The command with what one more word asks for. -/
def add (c : Command) : Intent → Command
  | .info => { c with info := true }
  | .yRange range => { c with yRange := some range }
  | .options changes => { c with options := c.options ++ changes }
  | .select change => { c with selection := some change }
  | .time token => { c with times := c.times ++ [token] }
  | .invalid word => { c with invalid := c.invalid ++ [word] }
  | .unknown word => { c with unknown := c.unknown ++ [word] }

/-- Adds what some words ask for, up to `i`; none if an unknown word comes before
all others. -/
def collect? (c : Command) : List (List Char) → Option Command
  | [] => some c
  | word :: rest =>
    match Intent.ofWord word with
    | .info => some (c.add .info)
    | .unknown text => if c = {} then none else (c.add (.unknown text)).collect? rest
    | intent => (c.add intent).collect? rest

/-- Whether a token sets the stop of the window. -/
def setsStop : TimeToken → Bool
  | .stop _ => true
  | _ => false

/-- Marks a token that sets the width. -/
def markStopAnchored : TimeToken → TimeToken
  | .shift s => .shift (if s.direction = .resize then { s with stopAnchored := true } else s)
  | token => token

/-- The command with its widths marked if it sets the stop as well. -/
def anchored (c : Command) : Command :=
  if c.times.any setsStop then { c with times := c.times.map markStopAnchored } else c

end Command

/-- What a whole line asks for. -/
inductive Line where
  | blank
  | quit
  /-- A line for the plotter. -/
  | verbatim (text : String)
  | command (c : Command)
deriving DecidableEq

/-- What a line asks for. White space around it does not matter. -/
def Line.parse (line : String) : Line :=
  let text := trim line.toList
  if text = [] then .blank
  else if text = ['q'] ∨ text = ['q', 'u', 'i', 't'] ∨ text = ['e', 'x', 'i', 't'] then .quit
  else
    match Command.collect? {} (words text) with
    | some c => if c.isRecognised then .command c.anchored else .verbatim (String.ofList text)
    | none => .verbatim (String.ofList text)

end SeriesPlot
