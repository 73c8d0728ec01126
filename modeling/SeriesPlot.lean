import SeriesPlot.Binary64.Bits
import SeriesPlot.Main
import SeriesPlot.Source.FileTree
import SeriesPlot.Proofs.Binary64.Numeral
import SeriesPlot.Proofs.Binary64.Order
import SeriesPlot.Proofs.Binary64.Overflow
import SeriesPlot.Proofs.Binary64.Product
import SeriesPlot.Proofs.Binary64.Rounding
import SeriesPlot.Proofs.Binary64.Sign
import SeriesPlot.Proofs.Binary64.Whole
import SeriesPlot.Proofs.Calendar.Date
import SeriesPlot.Proofs.Calendar.Instant
import SeriesPlot.Proofs.Calendar.Literal
import SeriesPlot.Proofs.Calendar.Offset
import SeriesPlot.Proofs.Calendar.Part
import SeriesPlot.Proofs.Calendar.Period
import SeriesPlot.Proofs.Calendar.Span
import SeriesPlot.Proofs.Calendar.WholeSeconds
import SeriesPlot.Proofs.Calendar.Written
import SeriesPlot.Proofs.Command.Absolute
import SeriesPlot.Proofs.Command.Arrows
import SeriesPlot.Proofs.Command.Intent
import SeriesPlot.Proofs.Command.OneLine
import SeriesPlot.Proofs.Command.Order
import SeriesPlot.Proofs.Command.Parse
import SeriesPlot.Proofs.Command.Parts
import SeriesPlot.Proofs.Command.Payload
import SeriesPlot.Proofs.Command.Selector
import SeriesPlot.Proofs.Command.Shown
import SeriesPlot.Proofs.Command.ValueRange
import SeriesPlot.Proofs.Config.WellFormed
import SeriesPlot.Proofs.Config.YRange
import SeriesPlot.Proofs.Directive.Coarser
import SeriesPlot.Proofs.Directive.Columns
import SeriesPlot.Proofs.Directive.Expansion
import SeriesPlot.Proofs.Directive.Explicit
import SeriesPlot.Proofs.Directive.Legend
import SeriesPlot.Proofs.Directive.Occurrences
import SeriesPlot.Proofs.Directive.OneLine
import SeriesPlot.Proofs.Directive.Plain
import SeriesPlot.Proofs.Directive.Plot
import SeriesPlot.Proofs.Directive.Quotes
import SeriesPlot.Proofs.Directive.Ticks
import SeriesPlot.Proofs.Directive.Title
import SeriesPlot.Proofs.Program.Input
import SeriesPlot.Proofs.Program.Run
import SeriesPlot.Proofs.Session.Abort
import SeriesPlot.Proofs.Session.Again
import SeriesPlot.Proofs.Session.AxisRange
import SeriesPlot.Proofs.Session.Delivered
import SeriesPlot.Proofs.Session.Fault
import SeriesPlot.Proofs.Session.Inert
import SeriesPlot.Proofs.Session.OneLine
import SeriesPlot.Proofs.Session.Preamble
import SeriesPlot.Proofs.Session.Reading
import SeriesPlot.Proofs.Session.Repeat
import SeriesPlot.Proofs.Session.Run
import SeriesPlot.Proofs.Session.Step
import SeriesPlot.Proofs.Session.Ticks
import SeriesPlot.Proofs.Session.Title
import SeriesPlot.Proofs.Session.ValueRange
import SeriesPlot.Proofs.Session.WellFormed
import SeriesPlot.Proofs.Session.WordOrder
import SeriesPlot.Proofs.Source.Content
import SeriesPlot.Proofs.Source.Header
import SeriesPlot.Proofs.Source.Landmarks
import SeriesPlot.Proofs.Source.LastColumn
import SeriesPlot.Proofs.Source.Loading
import SeriesPlot.Proofs.Source.Scan
import SeriesPlot.Proofs.Source.Set
import SeriesPlot.Proofs.Support.EraseDups
import SeriesPlot.Proofs.Support.Filter
import SeriesPlot.Proofs.Text.Blank
import SeriesPlot.Proofs.Text.Digits
import SeriesPlot.Proofs.Text.Fields
import SeriesPlot.Proofs.Text.Lines
import SeriesPlot.Proofs.Text.Words
import SeriesPlot.Proofs.Update.Absolute
import SeriesPlot.Proofs.Update.Centre
import SeriesPlot.Proofs.Update.Columns
import SeriesPlot.Proofs.Update.Contraction
import SeriesPlot.Proofs.Update.Edges
import SeriesPlot.Proofs.Update.Jumps
import SeriesPlot.Proofs.Update.Mirror
import SeriesPlot.Proofs.Update.Pins
import SeriesPlot.Proofs.Update.Sequence
import SeriesPlot.Proofs.Update.Slides
import SeriesPlot.Proofs.Update.Spread
import SeriesPlot.Proofs.Update.Unselected
import SeriesPlot.Proofs.Update.WellFormed
import SeriesPlot.Proofs.Update.Window
