import SeriesPlot.Text.Split
import SeriesPlot.Text.Terminal

/-!
# `SeriesPlot.CommandLine.Help`: how the program is used
-/

set_option autoImplicit false

namespace SeriesPlot.CommandLine

open SeriesPlot.Text

/-- The name of the program. -/
def programName : String := "igplot"

/-- The version text. -/
def versionText : String := programName ++ " 0.1.0\n"

/-- The name in a path: its last part that is neither empty nor the directory
itself. The parent directory has no name. -/
def fileName? (path : String) : Option String :=
  let parts := (splitOn '/' path.toList).filter fun part => part ≠ [] ∧ part ≠ ['.']
  match parts.getLast? with
  | none => none
  | some ['.', '.'] => none
  | some part => some (String.ofList part)

/-- The lines of the help text after the usage line. -/
def helpLines : List String :=
  ["",
   "Arguments:",
   "  [FILE]...  CSV files; the first column is a `YYYY-MM-DD HH:MM:SS` timestamp",
   "",
   "Options:",
   "      --gnuplot <PATH>         gnuplot executable [default: gnuplot]",
   "      --style <STYLE>          Plot style, restored by a bare `-style` [default: lines]",
   "      --linewidth <LINEWIDTH>  Line width, restored by a bare `-lw` [default: 1]",
   "      --show                   Echo every directive before sending it",
   "      --debug                  Emit debug diagnostics on stderr",
   "  -h, --help                   Print help",
   "  -V, --version                Print version",
   "",
   "Interactive commands (space separated, combinable on one line):",
   "  i                       info: files, columns, time ranges",
   "  q | quit | exit         leave",
   "  <enter>                 repeat the previous line",
   "  a2  3  b  a2,b3  vn vp  select variables (file letter + column)",
   "  y[lo][,hi]              y range, empty side = auto",
   "  -opt[=val][,opt...]     style|ls, lw, mis, title, formatx, show|s",
   "  t  tv  ta..ts           whole range, overlap, one file",
   "  s<time> e<time> c<time> set start, end, centre (e.g. s2013-04-05T06)",
   "  >  <  >>2d  <3h         move later / earlier",
   "  <>  ><  <>0.5  ><2h     expand / contract",
   "  2d  |2d  2d|  |>1w      resize, '|' pins the start or end",
   "  anything else           sent to gnuplot as typed"]

/-- The help text, with the name by which the program was called as a terminal
shows it. -/
def helpText (calledAs : String) : String :=
  String.join ((["Interactive gnuplot driver for 2D time-series CSV files",
    "", "Usage: " ++ Terminal.visible calledAs ++ " [OPTIONS] [FILE]..."]
    ++ helpLines).map (· ++ "\n"))

end SeriesPlot.CommandLine
