import SeriesPlot.Binary64.Arithmetic
import SeriesPlot.Binary64.Numeral
import SeriesPlot.Calendar.Literal
import SeriesPlot.Calendar.Span

/-!
# `SeriesPlot.Command.TimeToken`: words that move the window

* `t`, `tv`, `ta` to `ts`: the union, the overlap, and the range of one source.
* `s`, `e`, `c` and a time literal: sets the start, the stop, or the centre.
* arrows, a number, a unit, and a bar at either end, each optional: a change
  relative to the window. Without arrows it sets the width, with arrows one way
  it moves, with arrows both ways it expands or contracts. A bar pins that edge.
-/

set_option autoImplicit false

namespace SeriesPlot

/-- What a relative change does with the window. -/
inductive Direction where
  /-- No arrows: sets the width. -/
  | resize
  /-- `>`: moves later. -/
  | forward
  /-- `<`: moves earlier. -/
  | backward
  /-- `<>`: moves both edges outwards. -/
  | expand
  /-- `><`: moves both edges inwards. -/
  | contract
deriving DecidableEq, Inhabited

/-- The edges that a relative change holds in place. -/
inductive Pin where
  | free
  | start
  | stop
  | both
deriving DecidableEq, Inhabited

/-- A change relative to the window. -/
structure Shift where
  /-- The word as typed, for messages. -/
  word : String
  direction : Direction
  /-- How often the arrow of a move is repeated; each repetition adds the length
  once more. -/
  intensity : Nat
  magnitude : Option Binary64
  /-- The unit of the magnitude; without one it counts window widths. -/
  unit : Option SpanUnit
  pin : Pin
  /-- Whether the same line sets the stop as well. It changes nothing. -/
  stopAnchored : Bool
deriving DecidableEq, Inhabited

/-- How many units a change is about. -/
def Shift.length (s : Shift) : Binary64 := s.magnitude.getD 1 * Binary64.ofInt s.intensity

/-- A word that moves the window. -/
inductive TimeToken where
  | start (t : Instant)
  | stop (t : Instant)
  | centre (t : Instant)
  | full
  | overlap
  | source (letter : Char)
  | shift (s : Shift)
deriving DecidableEq, Inhabited

/-- An arrow of a relative change. -/
def isArrow (c : Char) : Bool := c == '<' || c == '>'

/-- The bar that pins an edge. -/
def pinMark : Char := '|'

/-- The letter of a unit. -/
def isUnitLetter (c : Char) : Bool := (SpanUnit.ofLetter? c).isSome

/-- A character of the number in a relative change. -/
def isMagnitudeChar (c : Char) : Bool := c.isDigit || c == '.' || c == '-'

namespace Shift

/-- The direction that a word's arrows give, whatever stands between them. -/
def directionOf (word : List Char) : Direction :=
  let arrows := word.filter isArrow
  match arrows.contains '>', arrows.contains '<' with
  | true, true => if arrows.head? = some '>' then .contract else .expand
  | true, false => .forward
  | false, true => .backward
  | false, false => .resize

/-- Arrows beyond this many are not counted. -/
def intensityLimit : Nat := 4294967295

/-- The length of the first run of arrows for a move, and one for other changes. -/
def intensityOf (word : List Char) : Nat :=
  match directionOf word with
  | .forward | .backward =>
    min intensityLimit ((word.dropWhile (!isArrow ·)).takeWhile isArrow).length
  | _ => 1

/-- The value of a word's first run of number characters, if it has one. Only the
numeral at the start of the run counts, and zero if there is none. -/
def magnitudeOf (word : List Char) : Option Binary64 :=
  match (word.dropWhile (!isMagnitudeChar ·)).takeWhile isMagnitudeChar with
  | [] => none
  | run =>
    match Binary64.numeral? run with
    | some (value, _) => some value
    | none => some 0

/-- The edges that bars at the ends of a word pin. -/
def pinOf (word : List Char) : Pin :=
  match word.head? == some pinMark, word.getLast? == some pinMark with
  | true, true => .both
  | true, false => .start
  | false, true => .stop
  | false, false => .free

/-- The change that a word asks for, if it has no other characters than those of
a relative change. -/
def parse? (word : List Char) : Option Shift :=
  let allowed (c : Char) := isArrow c || c == pinMark || isMagnitudeChar c || isUnitLetter c
  if word.isEmpty || !word.all allowed then none
  else
    some {
      word := String.ofList word
      direction := directionOf word
      intensity := intensityOf word
      magnitude := magnitudeOf word
      unit := word.findSome? SpanUnit.ofLetter?
      pin := pinOf word
      stopAnchored := false }

end Shift

namespace TimeToken

/-- Digits and points, with a unit's letter after them or not. -/
def isPlainSpan (word : List Char) : Bool :=
  let body := match word.getLast? with
    | some c => if isUnitLetter c then word.dropLast else word
    | none => word
  !body.isEmpty && body.all fun c => c.isDigit || c == '.'

/-- Whether a text starts with the four digits of a year. -/
def startsWithYear (text : List Char) : Bool :=
  (text.take 4).length == 4 && (text.take 4).all Char.isDigit

/-- A relative change, for words that have a mark of one or are a plain span. -/
def shift? (word : List Char) : Option TimeToken :=
  if word.any isArrow || word.contains pinMark || isPlainSpan word then
    (Shift.parse? word).map shift
  else none

/-- The token that a word is; none if it is not about time at all, and an error
if it sets an edge to a time that does not exist. -/
def parse? (word : List Char) : Option (Except TimeError TimeToken) :=
  match word with
  | ['t'] => some (.ok full)
  | ['t', 'v'] => some (.ok overlap)
  | ['t', letter] =>
    if 'a' ≤ letter ∧ letter ≤ 's' then some (.ok (source letter)) else none
  | mark :: rest =>
    let anchor? : Option (Instant → TimeToken) := match mark with
      | 's' => some start
      | 'e' => some stop
      | 'c' => some centre
      | _ => none
    match anchor?, startsWithYear rest with
    | some anchor, true => some ((TimeLiteral.read (String.ofList rest)).map anchor)
    | _, _ => (shift? word).map .ok
  | [] => none

end TimeToken

end SeriesPlot
