import SeriesPlot.CommandLine
import SeriesPlot.Session

/-!
# `SeriesPlot.Program`: one run of the program

A run reads its arguments and the files they name, starts the plotter, and then
handles the lines of the input until one of them quits, the input ends, or
something fails. It is a function of the arguments and of what surrounds the
program: the files, the plotters that can be started, and the input. A run that
aborts over a line ends there.
-/

set_option autoImplicit false

namespace SeriesPlot

open SeriesPlot.Text

/-- Why a run fails. -/
inductive ProgramError where
  | arguments (cause : CommandLine.ArgumentError)
  | source (cause : SourceError)
  | config (cause : ConfigError)
  /-- The plotter cannot be started. -/
  | noPlotter (path : String)
  | session (cause : SessionError)
  /-- A line of the input is not valid text. -/
  | invalidText
  /-- The program aborts over a line of the input. -/
  | aborted
deriving DecidableEq

namespace ProgramError

/-- What the user is told. -/
def message : ProgramError → String
  | arguments cause => cause.message
  | source cause => cause.message
  | config cause => cause.message
  | noPlotter path =>
    "failed to start plotting backend '" ++ path ++ "': " ++ FileError.notFound.message
  | session cause => cause.message
  | invalidText => "stream did not contain valid UTF-8"
  | aborted => "assertion failed: min <= max"

/-- The line in which the user is told. -/
def line (e : ProgramError) : String :=
  (if e = aborted then "" else "Error: ") ++ e.message ++ "\n"

/-- The exit code of a run that fails. -/
def exitCode : ProgramError → Nat
  | arguments _ => 2
  | aborted => 101
  | _ => 1

end ProgramError

/-- What surrounds a run. -/
structure Surroundings where
  files : SourceSet.Files
  /-- Whether a program of this name can be started as a plotter. -/
  canStart : String → Bool
  input : List UInt8

/-- What a run leaves behind: the text it printed, the directives the plotter
got if it was started, and why the run failed if it did. -/
structure Report where
  printed : String
  sent : Option (List Directive) := none
  error : Option ProgramError := none

namespace Program

/-- The lines of the input. A line feed ends a line and one carriage return
before it belongs to it; what follows the last line feed is a line unless it is
empty. -/
def inputLines (bytes : List UInt8) : List (List UInt8) :=
  let pieces := splitWhere (· == lineFeed) bytes
  pieces.dropLast.map dropReturn ++ pieces.getLast?.toList.filter (!·.isEmpty)

/-- The session that some arguments ask for, before its first step. The files
are read and the settings are checked before the plotter is started. -/
def openSession (a : CommandLine.Arguments) (files : SourceSet.Files)
    (canStart : String → Bool) : Except ProgramError Session := do
  let sources ← (SourceSet.load files a.files).mapError ProgramError.source
  let settings : Settings :=
    { style := some (.ofName a.style), lineWidth := some a.lineWidth, echo := a.echo }
  let config ← (settings.build sources.initialWindow).mapError ProgramError.config
  if canStart a.plotter then return { sources, config } else throw (.noPlotter a.plotter)

/-- A plotter that takes every directive. -/
def delivering : Nat → Delivery := fun _ => .delivered

/-- What a session leaves behind if its step had this outcome and the rest of it
is `rest`, which is not reached if the step fails or quits. -/
def continueWith (o : Outcome) (rest : Session → Report) : Report :=
  match o.result with
  | .ok .goOn =>
    let r := rest o.session
    { r with printed := o.printed ++ r.printed, sent := some (o.sent ++ r.sent.getD []) }
  | .ok .quit => { printed := o.printed, sent := some o.sent }
  | .error e => { printed := o.printed, sent := some o.sent, error := some (.session e) }

/-- What a session leaves behind of some input lines. -/
def handleLines (s : Session) : List (List UInt8) → Report
  | [] => { printed := "", sent := some [] }
  | line :: rest =>
    match Utf8.decode? line with
    | none => { printed := "", sent := some [], error := some .invalidText }
    | some text =>
      match s.handle? delivering (String.ofList text) with
      | some o => continueWith o (handleLines · rest)
      | none =>
        { printed := s.printedBeforeAbort (String.ofList text), sent := some []
          error := some .aborted }

/-- What a run leaves behind. Without files it only shows the help text. -/
def run (calledAs : String) (arguments : List String) (around : Surroundings) : Report :=
  match CommandLine.read arguments with
  | .error e => { printed := "", error := some (.arguments e) }
  | .ok .help => { printed := CommandLine.helpText calledAs }
  | .ok .version => { printed := CommandLine.versionText }
  | .ok (.run a) =>
    if a.files.isEmpty then { printed := CommandLine.helpText CommandLine.programName }
    else match openSession a around.files around.canStart with
      | .error e => { printed := "", error := some e }
      | .ok s => continueWith (s.start delivering) (handleLines · (inputLines around.input))

end Program

namespace Report

/-- The exit code of the run. -/
def exitCode (r : Report) : Nat := (r.error.map ProgramError.exitCode).getD 0

/-- What the plotter got: every directive on a line of its own. -/
def plotterInput (r : Report) : Option String :=
  r.sent.map fun directives => String.join (directives.map (·.text ++ "\n"))

end Report

end SeriesPlot
