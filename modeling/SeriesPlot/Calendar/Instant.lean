import SeriesPlot.Calendar.Date

/-!
# `SeriesPlot.Calendar.Instant`: points in time

An instant is a whole number of milliseconds since the start of 1970 in
universal time, without leap seconds. The instants from the start of year
-262143 to the end of year 262142 are representable, and the type holds no
others; an operation that would leave the range has no result.
-/

set_option autoImplicit false

namespace SeriesPlot

/-- The first representable millisecond, the start of year -262143. -/
def Instant.earliestMillis : Int := -8334601228800000

/-- The last representable millisecond, the end of year 262142. -/
def Instant.latestMillis : Int := 8210266876799999

/-- A representable point in time, in milliseconds since 1970-01-01. -/
structure Instant where
  millis : Int
  earliest_le : Instant.earliestMillis ≤ millis
  le_latest : millis ≤ Instant.latestMillis
deriving DecidableEq

namespace Instant

/-- The milliseconds of one day. -/
def millisPerDay : Int := 86400000

/-- The start of 1970. -/
def epoch : Instant := ⟨0, by decide, by decide⟩

instance : Inhabited Instant := ⟨epoch⟩

instance : LE Instant := ⟨fun s t => s.millis ≤ t.millis⟩

instance : LT Instant := ⟨fun s t => s.millis < t.millis⟩

instance (s t : Instant) : Decidable (s ≤ t) := inferInstanceAs (Decidable (s.millis ≤ t.millis))

instance (s t : Instant) : Decidable (s < t) := inferInstanceAs (Decidable (s.millis < t.millis))

/-- The earlier of two instants. -/
instance : Min Instant := ⟨fun s t => if s ≤ t then s else t⟩

/-- The later of two instants. -/
instance : Max Instant := ⟨fun s t => if s ≤ t then t else s⟩

/-- Instants are ordered by their milliseconds. -/
theorem le_def (s t : Instant) : s ≤ t ↔ s.millis ≤ t.millis := Iff.rfl

/-- The strict order is the one of the milliseconds as well. -/
theorem lt_def (s t : Instant) : s < t ↔ s.millis < t.millis := Iff.rfl

/-- The instant at a number of milliseconds, if it is representable. -/
def ofMillis? (millis : Int) : Option Instant :=
  if h : earliestMillis ≤ millis ∧ millis ≤ latestMillis then some ⟨millis, h.1, h.2⟩ else none

/-- The instant a number of milliseconds later, if it is representable. -/
def add? (t : Instant) (millis : Int) : Option Instant := ofMillis? (t.millis + millis)

/-- The date on which an instant lies. -/
def date (t : Instant) : Date := Date.ofDayNumber (t.millis / millisPerDay)

/-- The milliseconds since the start of the instant's day. -/
def millisOfDay (t : Instant) : Nat := (t.millis % millisPerDay).toNat

/-- The instant a number of milliseconds into a day, if it is representable. -/
def ofDate? (d : Date) (millisOfDay : Nat) : Option Instant :=
  ofMillis? (d.dayNumber * millisPerDay + millisOfDay)

end Instant

end SeriesPlot
