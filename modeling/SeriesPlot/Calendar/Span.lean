import SeriesPlot.Binary64.Arithmetic
import SeriesPlot.Calendar.Months

/-!
# `SeriesPlot.Calendar.Span`: lengths of time

A length of time is a number of seconds, or of units of which years and months
depend on where they are measured from. Moving an instant rounds to whole
milliseconds, a half going away from zero, so a move and the opposite move are
the same distance.
-/

set_option autoImplicit false

namespace SeriesPlot

/-- The units in which a length of time can be given. -/
inductive SpanUnit where
  | year
  | month
  | week
  | day
  | hour
deriving DecidableEq, Inhabited

/-- The unit that a letter stands for. -/
def SpanUnit.ofLetter? : Char → Option SpanUnit
  | 'y' => some .year
  | 'm' => some .month
  | 'w' => some .week
  | 'd' => some .day
  | 'h' => some .hour
  | _ => none

/-- The average length of a Gregorian year, used where the calendar ends. -/
def averageYearSeconds : Binary64 := 31556952

/-- The average length of a Gregorian month, used where the calendar ends. -/
def averageMonthSeconds : Binary64 := averageYearSeconds / 12

/-- The seconds from one instant to another, negative if it is earlier. -/
def secondsBetween (start stop : Instant) : Binary64 :=
  Binary64.ofInt (stop.millis - start.millis) / 1000

/-- The seconds in one unit that begins at `start`. -/
def SpanUnit.secondsFrom (start : Instant) : SpanUnit → Binary64
  | .year => ((start.addYears? 1).map (secondsBetween start)).getD averageYearSeconds
  | .month => ((start.addMonths? 1).map (secondsBetween start)).getD averageMonthSeconds
  | .week => 604800
  | .day => 86400
  | .hour => 3600

/-- The seconds in `length` units: one unit that begins at `start`, scaled. -/
def spanSeconds (length : Binary64) (unit : SpanUnit) (start : Instant) : Binary64 :=
  unit.secondsFrom start * length

/-- Moves of this many milliseconds or more are refused. -/
def millisLimit : Nat := 9000000000000000

/-- A number of seconds in whole milliseconds, a half going away from zero;
none if it is not finite or at the limit. -/
def wholeMillis? (seconds : Binary64) : Option Int := do
  let millis ← (seconds * 1000).round?
  if millis.natAbs < millisLimit then some millis else none

/-- The instant `seconds` later, or earlier if it is negative. -/
def Instant.offset? (t : Instant) (seconds : Binary64) : Option Instant := do
  t.add? (← wholeMillis? seconds)

end SeriesPlot
