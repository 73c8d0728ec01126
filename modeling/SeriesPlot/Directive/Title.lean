import SeriesPlot.Source.Set

/-!
# `SeriesPlot.Directive.Title`: the derived title

The derived title names the files that the selection mentions, in the order of
their letters. If there is more than one, each is followed by its letter.
-/

set_option autoImplicit false

namespace SeriesPlot

namespace Source

/-- The letter of a source as legends and titles show it, such as ` (A)`. -/
def tag (s : Source) : String := " (" ++ s.letter.toUpper.toString ++ ")"

end Source

namespace Selection

/-- The sources that a selection mentions, by their letter or all of them by a
bare column. -/
def activeSources (s : Selection) (set : SourceSet) : List Source :=
  set.sources.filter fun source => s.spansAllSources || s.letters.contains source.letter

/-- The title for a selection; none if no source is selected. -/
def title? (s : Selection) (set : SourceSet) : Option String :=
  match s.activeSources set with
  | [] => none
  | [only] => some only.label
  | many => some (Text.join ", " (many.map fun source => source.label ++ source.tag))

end Selection

end SeriesPlot
