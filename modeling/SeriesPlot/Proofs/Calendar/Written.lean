import SeriesPlot.Calendar.Literal
import SeriesPlot.Calendar.Written
import SeriesPlot.Proofs.Calendar.Instant
import SeriesPlot.Proofs.Text.Digits

/-!
# `SeriesPlot.Proofs.Calendar.Written`: what a written point in time is read as

An instant is written to the minute, and the text is a time literal. `read_minuteText` says
which instant that literal denotes (`readBack?`).

* `readBack?_of_fourDigitYear`: in the years 0 to 9999 it is the instant itself without its
  seconds.
* Elsewhere the text begins with a sign, which no literal has, and of a longer year only the
  first four digits are taken for the year (`year?_minuteText`). What is left of it is taken for
  the month, and every field moves up by one (`groups_fixedDigits_fieldsText`).
* `minuteText_eq_of_minute_eq`: instants within one minute have the same text, so two different
  edges can be written alike.

The year is split into its first four digits and the others (`yearText_eq`), of which there are
two at most. The fields after it are two digits each with a mark before them, so each of them is a
group by itself (`groups_fieldsText`).
-/

set_option autoImplicit false

namespace SeriesPlot

open SeriesPlot.Text

namespace TimeLiteral

/-- Characters that are no digits may stand before the year. -/
theorem year?_append_of_not_isDigit {before : List Char} (h : ∀ c ∈ before, c.isDigit = false)
    (rest : List Char) : year? (before ++ rest) = year? rest := by
  induction before with
  | nil => rfl
  | cons c before ih =>
    rw [List.forall_mem_cons] at h
    rw [List.cons_append, year?, if_neg, ih h.2]
    simp [h.1]

/-- Four digits at the front of a text are its year. -/
theorem year?_fixedDigits (n : Nat) (rest : List Char) :
    year? (fixedDigits 4 n ++ rest) = some (n % 10000, rest) := by
  have hvalue : digitsValue (fixedDigits 4 n) = n % 10000 := digitsValue_fixedDigits 4 n
  have hdigits : ∀ c ∈ fixedDigits 4 n, c.isDigit = true := fun _ => isDigit_of_mem_fixedDigits
  have hlength := length_fixedDigits 4 n
  rw [← hvalue]
  -- Only that these are four digits matters for where the year is found.
  generalize fixedDigits 4 n = digits at *
  match digits, hlength with
  | [a, b, c, d], _ =>
    rw [List.cons_append, year?, if_pos ⟨by simp, by simpa using hdigits⟩]
    rfl

/-- Characters that are no digits may stand before a group. -/
theorem groups_cons_of_not_isDigit {c : Char} (h : c.isDigit = false) (count : Nat)
    (rest : List Char) : groups count (c :: rest) = groups count rest := by
  cases count with
  | zero => rfl
  | succ count => simp [groups, h]

/-- Two digits at the front of a text are a group. -/
theorem groups_two (count n : Nat) (rest : List Char) :
    groups (count + 1) (fixedDigits 2 n ++ rest) = n % 100 :: groups count rest := by
  have hvalue : digitsValue (fixedDigits 2 n) = n % 100 := digitsValue_fixedDigits 2 n
  rw [← hvalue]
  simp [fixedDigits, groups, isDigit_digitChar]

/-- A group of one digit ends where the digits end. -/
theorem groups_one {c : Char} (h : c.isDigit = false) (count n : Nat) (rest : List Char) :
    groups (count + 1) (fixedDigits 1 n ++ c :: rest) = n % 10 :: groups count (c :: rest) := by
  have hvalue : digitsValue (fixedDigits 1 n) = n % 10 := digitsValue_fixedDigits 1 n
  rw [← hvalue]
  simp [fixedDigits, groups, isDigit_digitChar, h]

end TimeLiteral

namespace Instant

variable {t : Instant}

/-- The hour of the day. -/
def hour (t : Instant) : Nat := t.millisOfDay / 60000 / 60

/-- The minute of the hour. -/
def minute (t : Instant) : Nat := t.millisOfDay / 60000 % 60

/-- A day has 24 hours. -/
theorem hour_lt (t : Instant) : t.hour < 24 := by
  have h := t.millisOfDay_eq
  unfold millisPerDay at h
  unfold hour
  omega

/-- An hour has sixty minutes. -/
theorem minute_lt (t : Instant) : t.minute < 60 := Nat.mod_lt _ (by decide)

/-- How many digits of a year are written after the first four. -/
def digitsLeft (year : Int) : Nat :=
  if year.natAbs < 10000 then 0 else if year.natAbs < 100000 then 1 else 2

/-- A representable year has six digits at most, so two at most are left of it. -/
theorem digitsLeft_le_two (year : Int) : digitsLeft year ≤ 2 := by
  unfold digitsLeft
  grind

/-- What is left of a year without those digits has four at most. -/
theorem natAbs_div_lt {year : Int} (h : year.natAbs < 1000000) :
    year.natAbs / 10 ^ digitsLeft year < 10000 := by
  unfold digitsLeft
  split
  · simpa
  · split <;> omega

/-- The instant that the text of `t` denotes, if it denotes one. -/
def readBack? (t : Instant) : Option Instant :=
  let year := t.date.year.natAbs
  match digitsLeft t.date.year with
  | 0 => TimeLiteral.instant? ⟨year, t.date.month, t.date.day⟩ t.hour t.minute 0
  | left + 1 =>
    TimeLiteral.instant? ⟨(year / 10 ^ (left + 1) : Nat), year % 10 ^ (left + 1), t.date.month⟩
      t.date.day t.hour t.minute

/-- A year is written as its first four digits and those that are left, after a sign or
none. -/
theorem yearText_eq {year : Int} (h : year.natAbs < 1000000) :
    ∃ sign : List Char, (∀ c ∈ sign, c.isDigit = false) ∧
      yearText year = sign ++ (fixedDigits 4 (year.natAbs / 10 ^ digitsLeft year) ++
        fixedDigits (digitsLeft year) year.natAbs) := by
  -- Only a year of up to four digits can have zeros in front.
  have hdigits : paddedDigits 4 year.natAbs = fixedDigits (4 + digitsLeft year) year.natAbs := by
    unfold digitsLeft
    split
    · exact if_pos ‹_›
    · split
      · have hlow : 10 ^ 4 ≤ year.natAbs := by omega
        exact paddedDigits_eq (by decide) hlow (by omega)
      · have hlow : 10 ^ 5 ≤ year.natAbs := by omega
        exact paddedDigits_eq (by decide) hlow (by omega)
  rw [← fixedDigits_add, ← hdigits]
  unfold yearText
  split
  · have hfour : paddedDigits 4 year.natAbs = fixedDigits 4 year.toNat := by
      rw [show year.toNat = year.natAbs by omega]
      exact if_pos (show year.natAbs < 10000 by omega)
    exact ⟨[], by simp, hfour.symm⟩
  · refine ⟨[_], ?_, rfl⟩
    split <;> simp

/-- The text of an instant after the year. -/
def fieldsText (t : Instant) : List Char :=
  '-' :: (fixedDigits 2 t.date.month ++ '-' :: (fixedDigits 2 t.date.day
    ++ ' ' :: (fixedDigits 2 t.hour ++ ':' :: fixedDigits 2 t.minute)))

/-- The text of an instant is its year, and then the fields down to the minute. -/
theorem toList_minuteText (t : Instant) :
    t.minuteText.toList = yearText t.date.year ++ t.fieldsText := by
  simp [minuteText, fieldsText, Date.text, hour, minute]

/-- Instants within one minute have the same text. -/
theorem minuteText_eq_of_minute_eq {u : Instant} (h : t.millis / 60000 = u.millis / 60000) :
    t.minuteText = u.minuteText := by
  have hday : t.millis / millisPerDay = u.millis / millisPerDay := by
    unfold millisPerDay
    omega
  have hminutes : t.millisOfDay / 60000 = u.millisOfDay / 60000 := by
    have ht := t.millisOfDay_eq
    have hu := u.millisOfDay_eq
    unfold millisPerDay at ht hu
    omega
  unfold minuteText date
  rw [hday, hminutes]

/-- The four fields after a written year are the first groups in it. -/
theorem groups_fieldsText (t : Instant) (count : Nat) :
    TimeLiteral.groups (count + 4) t.fieldsText =
      [t.date.month, t.date.day, t.hour, t.minute] := by
  obtain ⟨-, hmonth, -, hday⟩ := t.valid_date
  have hlength := Calendar.daysInMonth_bounds (Calendar.isLeap t.date.year) t.date.month
  have hhour := t.hour_lt
  have hminute := t.minute_lt
  have hnil : TimeLiteral.groups count [] = [] := by cases count <;> rfl
  have hlast := TimeLiteral.groups_two count t.minute []
  rw [List.append_nil, hnil] at hlast
  rw [fieldsText]
  -- Each of the first three fields ends at the mark before the next one.
  iterate 3
    rw [TimeLiteral.groups_cons_of_not_isDigit rfl, TimeLiteral.groups_two]
  rw [TimeLiteral.groups_cons_of_not_isDigit rfl, hlast,
    Nat.mod_eq_of_lt, Nat.mod_eq_of_lt, Nat.mod_eq_of_lt, Nat.mod_eq_of_lt]
  all_goals omega

/-- Up to two digits before the fields are one more group. -/
theorem groups_fixedDigits_fieldsText (t : Instant) {left : Nat} (hleft : left < 2) (n : Nat) :
    TimeLiteral.groups 5 (fixedDigits (left + 1) n ++ t.fieldsText) =
      [n % 10 ^ (left + 1), t.date.month, t.date.day, t.hour, t.minute] := by
  rw [← t.groups_fieldsText 0]
  match left, hleft with
  | 0, _ => exact TimeLiteral.groups_one rfl 4 n _
  | 1, _ => exact TimeLiteral.groups_two 4 n _

/-- The year that is read is the first four digits of the one written, whatever its sign. -/
theorem year?_minuteText (t : Instant) :
    TimeLiteral.year? t.minuteText.toList =
      some (t.date.year.natAbs / 10 ^ digitsLeft t.date.year,
        fixedDigits (digitsLeft t.date.year) t.date.year.natAbs ++ t.fieldsText) := by
  obtain ⟨sign, hsign, hyear⟩ := yearText_eq t.natAbs_year_lt
  rw [toList_minuteText, hyear, List.append_assoc, List.append_assoc,
    TimeLiteral.year?_append_of_not_isDigit hsign, TimeLiteral.year?_fixedDigits,
    Nat.mod_eq_of_lt (natAbs_div_lt t.natAbs_year_lt)]

/-- The text of an instant is a literal of the instant `readBack?`. -/
theorem read_minuteText (t : Instant) :
    TimeLiteral.read t.minuteText =
      match t.readBack? with
      | some r => .ok r
      | none => .error (.invalidLiteral t.minuteText) := by
  have htwo := digitsLeft_le_two t.date.year
  unfold TimeLiteral.read readBack?
  rw [t.year?_minuteText]
  dsimp only
  cases hleft : digitsLeft t.date.year with
  | zero =>
    -- The four groups are month, day, hour and minute, and there is none for the second.
    rw [show fixedDigits 0 t.date.year.natAbs = [] from rfl, List.nil_append,
      t.groups_fieldsText 1, show t.date.year.natAbs / 10 ^ 0 = t.date.year.natAbs from
      Nat.div_one _]
    rfl
  | succ left =>
    -- What is left of the year is a fifth group, so the minute is taken for the second.
    rw [t.groups_fixedDigits_fieldsText (by omega)]
    rfl

/-- In the years 0 to 9999, the text of an instant denotes the start of its minute. -/
theorem readBack?_of_fourDigitYear (h : 0 ≤ t.date.year ∧ t.date.year ≤ 9999) :
    ∃ r, t.readBack? = some r ∧ r.millis = t.millis / 60000 * 60000 := by
  have hleft : digitsLeft t.date.year = 0 := if_pos (by omega)
  have hyear : (t.date.year.natAbs : Int) = t.date.year := Int.natAbs_of_nonneg h.1
  have hnumber : t.date.dayNumber = t.millis / millisPerDay := Date.dayNumber_ofDayNumber _
  have hday := t.millisOfDay_eq
  have hearliest := t.earliest_le
  have hlatest := t.le_latest
  unfold readBack?
  dsimp only
  rw [hleft, hyear]
  -- The time of day loses its seconds, as they are not written.
  have hmillis : t.date.dayNumber * millisPerDay + ↑(((t.hour * 60 + t.minute) * 60 + 0) * 1000) =
      t.millis / 60000 * 60000 := by
    unfold hour minute
    unfold millisPerDay at *
    omega
  have hrange : earliestMillis ≤ t.millis / 60000 * 60000 ∧
      t.millis / 60000 * 60000 ≤ latestMillis := by
    unfold earliestMillis latestMillis at *
    omega
  refine ⟨⟨t.millis / 60000 * 60000, hrange.1, hrange.2⟩, ?_, rfl⟩
  show TimeLiteral.instant? t.date t.hour t.minute 0 = _
  rw [TimeLiteral.instant?, if_pos ⟨t.valid_date, t.hour_lt, t.minute_lt, by decide⟩, ofDate?,
    hmillis, ofMillis?, dif_pos hrange]

end Instant

end SeriesPlot
