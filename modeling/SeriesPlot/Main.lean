import SeriesPlot.Program

/-!
# `SeriesPlot.Main`: the command line

Texts for the user go to standard output. Directives go to standard error, which
is to be connected to the plotter.
-/

set_option autoImplicit false

namespace SeriesPlot.Main

/-- The number by which the operating system says that something is a directory. -/
def directoryCode : UInt32 := 21

/-- Reads a file; what cannot be read for a reason of its own is taken for a
directory. -/
def readFile (name : String) : IO (Except FileError (List UInt8)) := do
  try
    return .ok (← IO.FS.readBinFile name).toList
  catch
    | .noFileOrDirectory _ _ _ => return .error .notFound
    | .inappropriateType _ code _ =>
      return .error (if code = directoryCode then .isDirectory else .notDirectory)
    | .invalidArgument _ _ _ => return .error .nameTooLong
    | _ => return .error .isDirectory

/-- The content of some files by their names. -/
def readFiles (names : List String) : IO SourceSet.Files := do
  let contents ← names.mapM fun name => return (name, ← readFile name)
  return fun name => ((contents.find? (·.1 == name)).map (·.2)).getD (.error .notFound)

/-- Tells the user why the run fails. -/
def fail (e : ProgramError) : IO UInt32 := do
  IO.eprint e.line
  return UInt32.ofNat e.exitCode

/-- Shows what a step prints and sends. -/
def present (o : Outcome) : IO Unit := do
  IO.print o.printed
  (← IO.getStdout).flush
  IO.eprint (String.join (o.sent.map (·.text ++ "\n")))

/-- Handles the lines of standard input after a step. -/
partial def converse (o : Outcome) : IO UInt32 := do
  present o
  match o.result with
  | .error e => fail (.session e)
  | .ok .quit => return 0
  | .ok .goOn =>
    let input ← (← IO.getStdin).getLine
    if input.isEmpty then return 0
    else converse (o.session.handle Program.delivering input)

/-- Runs the program with the arguments after its name. -/
def run (arguments : List String) : IO UInt32 := do
  match CommandLine.read arguments with
  | .error e => fail (.arguments e)
  | .ok .help =>
    IO.print (CommandLine.helpText CommandLine.programName)
    return 0
  | .ok .version =>
    IO.print CommandLine.versionText
    return 0
  | .ok (.run a) =>
    if a.files.isEmpty then
      IO.print (CommandLine.helpText CommandLine.programName)
      return 0
    match Program.openSession a (← readFiles a.files) (fun _ => true) with
    | .error e => fail e
    | .ok s => converse (s.start Program.delivering)

end SeriesPlot.Main

/-- The program. -/
def main (arguments : List String) : IO UInt32 := SeriesPlot.Main.run arguments
