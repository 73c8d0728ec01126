import SeriesPlot.Calendar.Span
import SeriesPlot.Calendar.Written

/-!
# `SeriesPlot.Window`: the range of time on display

A window is a start and a later stop. A pair of edges that is not in this order
is no window: `Window.of?` answers with none.
-/

set_option autoImplicit false

namespace SeriesPlot

/-- A range of time that is not empty. -/
structure Window where
  start : Instant
  stop : Instant
  start_lt_stop : start < stop
deriving DecidableEq

namespace Window

/-- The window between two instants, if the first is before the second. -/
def of? (start stop : Instant) : Option Window :=
  if h : start < stop then some ⟨start, stop, h⟩ else none

/-- A window is made of its own edges. What fails to make one is not a window at all. -/
theorem of?_eq_some_iff {start stop : Instant} {w : Window} :
    of? start stop = some w ↔ w.start = start ∧ w.stop = stop := by
  obtain ⟨s, t, h⟩ := w
  unfold of?
  constructor
  · intro hw
    split at hw
    · cases hw
      exact ⟨rfl, rfl⟩
    · cases hw
  · rintro ⟨rfl, rfl⟩
    exact dif_pos h

/-- The exact width in milliseconds. -/
def widthMillis (w : Window) : Int := w.stop.millis - w.start.millis

/-- The width in seconds. -/
def seconds (w : Window) : Binary64 := secondsBetween w.start w.stop

/-- The text of a window, to the minute. -/
def text (w : Window) : String := w.start.minuteText ++ " -> " ++ w.stop.minuteText

end Window

end SeriesPlot
