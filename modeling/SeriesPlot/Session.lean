import SeriesPlot.Directive
import SeriesPlot.Source.Summary
import SeriesPlot.Update

/-!
# `SeriesPlot.Session`: a conversation with the user

A session holds the sources, the state of the plot, and the line that a blank
one repeats. Each step prints a text for the user and sends directives to the
plotter. What becomes of a directive is decided outside: the fate of each
sending attempt is given by its number, counted over the whole session.

The directives for title and time labels are sent only when due. If nothing can
be plotted they are still owed, and become due with the next plot.

A line over which the program aborts has no step (`Session.handle?`), and no line
is handled after it.
-/

set_option autoImplicit false

namespace SeriesPlot

/-- What becomes of a directive. -/
inductive Delivery where
  | delivered
  /-- The plotter has closed its input. -/
  | closed
  | failed
deriving DecidableEq, Inhabited

/-- Why a step of a session does not end well. -/
inductive SessionError where
  | plotterClosed
  | sendingFailed
deriving DecidableEq

/-- What the user is told. -/
def SessionError.message : SessionError → String
  | plotterClosed => "plotting backend closed its input"
  | sendingFailed => "backend failure"

/-- Whether the session goes on after a line. -/
inductive Flow where
  | goOn
  | quit
deriving DecidableEq, Inhabited

/-- The preceding directives that a plot has not been able to send. -/
structure Owed where
  title : Bool := false
  ticks : Bool := false
deriving DecidableEq, Inhabited

/-- A session between two lines. -/
structure Session where
  sources : SourceSet
  config : Config
  /-- The line that a blank one repeats. -/
  previous : String := "i"
  owed : Owed := {}
  /-- How many directives have been sent or tried to. -/
  attempts : Nat := 0
deriving DecidableEq

/-- What a part of a step does: the session after it, the text printed, the
directives that reached the plotter, and the fault that ends the step if there
is one. -/
structure Progress where
  session : Session
  printed : String := ""
  sent : List Directive := []
  error : Option SessionError := none
deriving DecidableEq

namespace Progress

/-- What two parts of a step do one after the other; the second is left out
after a fault. -/
def andThen (p : Progress) (next : Session → Progress) : Progress :=
  match p.error with
  | some _ => p
  | none =>
    let q := next p.session
    { q with printed := p.printed ++ q.printed, sent := p.sent ++ q.sent }

end Progress

/-- What a step shows: how it ends, and what is printed and sent on the way. -/
structure Outcome where
  result : Except SessionError Flow
  printed : String
  sent : List Directive
  session : Session

namespace Session

/-- Prints a text. -/
def print (s : Session) (text : String) : Progress := { session := s, printed := text }

/-- Prints a line. -/
def printLine (s : Session) (text : String) : Progress := s.print (text ++ "\n")

/-- Sends a directive. -/
def send (s : Session) (fate : Nat → Delivery) (d : Directive) : Progress :=
  let session := { s with attempts := s.attempts + 1 }
  match fate s.attempts with
  | .delivered => { session, sent := [d] }
  | .closed => { session, error := some .plotterClosed }
  | .failed => { session, error := some .sendingFailed }

/-- The session with the owed directives due. -/
def withOwedDue (s : Session) : Session :=
  { s with config := { s.config with
      titleDue := s.config.titleDue || s.owed.title
      ticksDue := s.config.ticksDue || s.owed.ticks } }

/-- The lines that show a plot's directives to a user who wants to see them. -/
def echoText (c : Config) (p : Plot) : String :=
  if c.echo then String.join ((p.preamble ++ [p.draw]).map (· ++ "\n")) else ""

/-- Plots the state, or reports that there is nothing to plot and notes what is
owed. -/
def render (s : Session) (fate : Nat → Delivery) : Progress :=
  let s := s.withOwedDue
  match Plot.ofConfig? s.config s.sources with
  | some p =>
    (print { s with owed := {} } (echoText s.config p)).andThen (·.send fate (.plot p))
  | none =>
    let owed := { title := s.config.titleDue, ticks := s.config.ticksDue }
    (printLine { s with owed } Notice.noFileExists.text).andThen (·.send fate .empty)

/-- Shows and sends the lines that prepare the plotter. -/
def prepare (s : Session) (fate : Nat → Delivery) (lines : List String) : Progress :=
  lines.foldl (fun p line =>
    (p.andThen (·.printLine line)).andThen (·.send fate (.setup line))) { session := s }

/-- Carries out a command. Without changes the state stays as it is. -/
def command (s : Session) (fate : Nat → Delivery) (c : Command) : Progress :=
  let update := s.config.update s.sources c
  let summary := if c.info then s.sources.summary else ""
  let told := s.print (summary ++ String.join (update.notices.map (·.text ++ "\n")))
  if c.hasChanges then
    told.andThen fun s =>
      (printLine { s with config := update.config } update.config.text).andThen (·.render fate)
  else told

/-- Ends a step: without a fault, the given flow. -/
def conclude (p : Progress) (flow : Flow) : Outcome :=
  { result := match p.error with
      | some e => .error e
      | none => .ok flow
    printed := p.printed
    sent := p.sent
    session := p.session }

/-- The first step: shows the sources, prepares the plotter, and plots. -/
def start (s : Session) (fate : Nat → Delivery) : Outcome :=
  let p := (s.print s.sources.summary).andThen (·.prepare fate Directive.setupLines)
  conclude ((p.andThen fun s => s.printLine s.config.text).andThen (·.render fate)) .goOn

/-- The line that an input stands for: the one before if it is blank. -/
def resolve (s : Session) (input : String) : String :=
  if Text.trim input.toList = [] then s.previous else input

/-- What a line does other than ending the session. -/
def perform (s : Session) (fate : Nat → Delivery) : Line → Progress
  | .verbatim text =>
    (s.printLine "attempting to run command in gnuplot...").andThen (·.send fate (.verbatim text))
  | .command c => s.command fate c
  | .blank => { session := s }
  | .quit => { session := s }

/-- Whether the program aborts over an input line. -/
def aborts (s : Session) (input : String) : Bool :=
  match Line.parse (s.resolve input) with
  | .command c => s.config.aborts s.sources c
  | _ => false

/-- What is printed for a line over which the program aborts. A command tells of the sources
before it is carried out. -/
def printedBeforeAbort (s : Session) (input : String) : String :=
  match Line.parse (s.resolve input) with
  | .command c => if c.info then s.sources.summary else ""
  | _ => ""

/-- The step of one input line, if the program does not abort over it. A line that succeeds
is the one to repeat. -/
def handle (s : Session) (fate : Nat → Delivery) (input : String) : Outcome :=
  let line := s.resolve input
  match Line.parse line with
  | .quit => conclude { session := s } .quit
  | parsed =>
    let p := s.perform fate parsed
    conclude (p.andThen fun s => { session := { s with previous := line } }) .goOn

/-- The step of one input line; none if the program aborts over it. -/
def handle? (s : Session) (fate : Nat → Delivery) (input : String) : Option Outcome :=
  if s.aborts input then none else some (s.handle fate input)

/-- The steps of some input lines, taken one after the other whatever becomes of
them. -/
def handleAll (s : Session) (fate : Nat → Delivery) : List String → List Outcome
  | [] => []
  | input :: rest =>
    let o := s.handle fate input
    o :: o.session.handleAll fate rest

end Session

end SeriesPlot
