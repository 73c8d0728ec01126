import SeriesPlot.Calendar.Instant
import SeriesPlot.Text.Digits

/-!
# `SeriesPlot.Calendar.Written`: writing points in time

Dates are written year first. Years 0 to 9999 have four digits; other years have
a sign and at least four digits.
-/

set_option autoImplicit false

namespace SeriesPlot

open SeriesPlot.Text

/-- The text of a year. -/
def yearText (year : Int) : List Char :=
  if 0 ≤ year ∧ year ≤ 9999 then fixedDigits 4 year.toNat
  else (if year < 0 then '-' else '+') :: paddedDigits 4 year.natAbs

/-- The text of a date, such as `2013-06-01`. -/
def Date.text (d : Date) : List Char :=
  yearText d.year ++ '-' :: fixedDigits 2 d.month ++ '-' :: fixedDigits 2 d.day

namespace Instant

/-- The text of an instant to the minute, such as `2013-06-01 05:00`. Seconds
are left out, not rounded. -/
def minuteText (t : Instant) : String :=
  let minutes := t.millisOfDay / 60000
  String.ofList (t.date.text
    ++ ' ' :: fixedDigits 2 (minutes / 60) ++ ':' :: fixedDigits 2 (minutes % 60))

/-- The exact text of an instant, such as `2013-06-01 05:00:00.250 UTC`. The
milliseconds are left out if they are zero. -/
def exactText (t : Instant) : String :=
  let millis := t.millisOfDay % 1000
  let seconds := t.millisOfDay / 1000 % 60
  let fraction := if millis = 0 then [] else '.' :: fixedDigits 3 millis
  t.minuteText ++ String.ofList (':' :: fixedDigits 2 seconds ++ fraction) ++ " UTC"

end Instant

end SeriesPlot
