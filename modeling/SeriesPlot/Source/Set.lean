import SeriesPlot.Source.Scan
import SeriesPlot.Window

/-!
# `SeriesPlot.Source.Set`: the sources of a session

The sources get their letters in order. Two windows are derived from them: the
union from the earliest start to the latest stop, and the overlap from the
latest start to the earliest stop, which there may not be.
-/

set_option autoImplicit false

namespace SeriesPlot

/-- The sources of a session, lettered in order, and their common windows. -/
structure SourceSet where
  sources : List Source
  union : Window
  overlap : Option Window
deriving DecidableEq

namespace SourceSet

/-- The sources with their letters given out in order. -/
def lettered (sources : List Source) : List Source :=
  List.zipWith (fun s letter => { s with letter }) sources sourceLetters

/-- The set of some sources. There have to be some, no more than there are
letters, and their union must not be empty. -/
def ofSources (given : List Source) : Except SourceError SourceSet :=
  if sourceLetters.length < given.length then .error (.tooMany given.length)
  else
    let sources := lettered given
    let starts := sources.map (·.start)
    let stops := sources.map (·.stop)
    match starts.min?, stops.max?, starts.max?, stops.min? with
    | some first, some last, some lastStart, some firstStop =>
      match Window.of? first last with
      | some union => .ok { sources, union, overlap := Window.of? lastStart firstStop }
      | none => .error .emptySpan
    | _, _, _, _ => .error .noFiles

/-- The source of a letter. -/
def get? (set : SourceSet) (letter : Char) : Option Source :=
  set.sources.find? (·.letter == letter)

/-- The window that a session starts with: what all sources cover, or else what
they cover together. -/
def initialWindow (set : SourceSet) : Window := set.overlap.getD set.union

/-- The content of a file by its name, or why it cannot be read. -/
abbrev Files := String → Except FileError (List UInt8)

/-- The sources of some files, which are read in order up to the first that
fails. -/
def load (files : Files) (labels : List String) : Except SourceError SourceSet := do
  if sourceLetters.length < labels.length then throw (.tooMany labels.length)
  let sources ← (labels.zip sourceLetters).mapM fun (label, letter) => do
    let bytes ← (files label).mapError (SourceError.unreadable label)
    Source.ofBytes letter label bytes
  ofSources sources

end SourceSet

end SeriesPlot
