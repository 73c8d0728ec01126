import SeriesPlot.Binary64
import SeriesPlot.Text.Digits

/-!
# `SeriesPlot.Binary64.Numeral`: reading numbers

A numeral is an optional sign, digits with an optional point and at least one
digit in all, and an optional exponent that has at least one digit. The names
`inf`, `infinity` and `nan` are read in any letter case, also after a sign. The
value is the number nearest to the exact decimal, an infinity from the overflow
limit on.

* `numeral?`: the longest numeral at the start of a text, and what follows it.
* `ofText?`: the value of a text that is a numeral or a name as a whole.
-/

set_option autoImplicit false

namespace SeriesPlot.Binary64

open SeriesPlot.Text

/-- An optional leading sign: whether it is a minus, and what follows it. -/
def takeSign : List Char → Bool × List Char
  | '-' :: rest => (true, rest)
  | '+' :: rest => (false, rest)
  | text => (false, text)

/-- The digits at the start of a text and what follows them. -/
def takeDigits (text : List Char) : List Char × List Char :=
  (text.takeWhile Char.isDigit, text.dropWhile Char.isDigit)

/-- The digits after a point at the start of a text, and what follows them; no
digits and the text itself if it does not start with a point. -/
def takeFraction : List Char → List Char × List Char
  | '.' :: rest => takeDigits rest
  | text => ([], text)

/-- The exponent at the start of a text, and what follows it. A mark without
digits is no exponent: nothing is consumed and the exponent is zero. -/
def takeExponent (text : List Char) : Int × List Char :=
  match text with
  | [] => (0, [])
  | mark :: afterMark =>
    let (negative, unsigned) := takeSign afterMark
    let (digits, rest) := takeDigits unsigned
    if (mark = 'e' ∨ mark = 'E') ∧ digits ≠ [] then
      (if negative then -(digitsValue digits : Int) else digitsValue digits, rest)
    else (0, text)

/-- The value of the longest numeral at the start of `text`, and what follows it. -/
def numeral? (text : List Char) : Option (Binary64 × List Char) :=
  let (negative, unsigned) := takeSign text
  let (whole, afterWhole) := takeDigits unsigned
  let (fraction, afterFraction) := takeFraction afterWhole
  if whole ++ fraction = [] then none
  else
    let (exponent, rest) := takeExponent afterFraction
    some (ofDecimal negative (digitsValue (whole ++ fraction)) (exponent - fraction.length), rest)

/-- The value of a name of an infinity or a NaN, with an optional sign. -/
def ofName? (text : List Char) : Option Binary64 :=
  let (negative, name) := takeSign text
  let name := String.ofList (name.map Char.toLower)
  if name = "inf" ∨ name = "infinity" then some (infinite negative)
  else if name = "nan" then some nan
  else none

/-- The value of a text that is a numeral or a name from its first to its last
character. -/
def ofText? (text : List Char) : Option Binary64 :=
  match numeral? text with
  | some (x, []) => some x
  | _ => ofName? text

end SeriesPlot.Binary64
