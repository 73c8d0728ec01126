import SeriesPlot.Calendar.Instant
import SeriesPlot.Text.Digits

/-!
# `SeriesPlot.Calendar.Literal`: reading points in time

A time literal is any text with four digits in a row. The first such four are
the year. After it come up to five groups of one or two digits, with any
characters that are not digits before each: month, day, hour, minute, second. A
group that is absent stands for the start of the period.
-/

set_option autoImplicit false

namespace SeriesPlot

open SeriesPlot.Text

/-- Why a point in time cannot be had. -/
inductive TimeError where
  | missingYear (text : String)
  | invalidLiteral (text : String)
  | outOfRange
deriving DecidableEq

/-- What the user is told. -/
def TimeError.message : TimeError → String
  | missingYear text => "no four-digit year in time literal '" ++ text ++ "'"
  | invalidLiteral text => "invalid calendar time '" ++ text ++ "'"
  | outOfRange => "time arithmetic out of range"

namespace TimeLiteral

/-- The number of the first four digits in a row, and the text after them. -/
def year? : List Char → Option (Nat × List Char)
  | [] => none
  | c :: rest =>
    if 4 ≤ (c :: rest).length ∧ ((c :: rest).take 4).all Char.isDigit then
      some (digitsValue ((c :: rest).take 4), rest.drop 3)
    else year? rest

/-- The numbers of the next `count` groups of at most two digits, or of as many
as there are. -/
def groups : Nat → List Char → List Nat
  | 0, _ => []
  | count + 1, text =>
    let fromDigit := text.dropWhile (!·.isDigit)
    let group := (fromDigit.take 2).takeWhile Char.isDigit
    if group = [] then []
    else digitsValue group :: groups count (fromDigit.drop group.length)

/-- The instant of a date and a time of day; none if the calendar or the clock
does not have them. -/
def instant? (date : Date) (hour minute second : Nat) : Option Instant :=
  if date.Valid ∧ hour < 24 ∧ minute < 60 ∧ second < 60 then
    Instant.ofDate? date (((hour * 60 + minute) * 60 + second) * 1000)
  else none

/-- The instant that a literal denotes. -/
def read (text : String) : Except TimeError Instant :=
  match year? text.toList with
  | none => .error (.missingYear text)
  | some (year, rest) =>
    let fields := groups 5 rest
    let date := ⟨year, fields.getD 0 1, fields.getD 1 1⟩
    match instant? date (fields.getD 2 0) (fields.getD 3 0) (fields.getD 4 0) with
    | some t => .ok t
    | none => .error (.invalidLiteral text)

end TimeLiteral

end SeriesPlot
