import SeriesPlot.Text.Blank

/-!
# `SeriesPlot.Text.Split`: cutting texts into pieces

`splitWhere` cuts at every separator, so there is one piece more than there are
separators and an empty text is one empty piece. Words and lines are pieces with
the empty ones treated as their kind demands: words are never empty, and a line
feed at the very end begins no line.
-/

set_option autoImplicit false

namespace SeriesPlot.Text

/-- The pieces between the elements that satisfy `isSeparator`, without these. -/
def splitWhere {α : Type} (isSeparator : α → Bool) (text : List α) : List (List α) :=
  text.foldr (fun x pieces =>
    if isSeparator x then [] :: pieces
    else match pieces with
      | [] => [[x]]
      | piece :: rest => (x :: piece) :: rest) [[]]

/-- The pieces between the occurrences of one character. -/
def splitOn (separator : Char) (text : List Char) : List (List Char) :=
  splitWhere (· == separator) text

/-- The pieces between white space that are not empty. -/
def words (text : List Char) : List (List Char) :=
  (splitWhere isBlank text).filter (!·.isEmpty)

/-- The text before the first occurrence of a character and the text after it. -/
def cutAt? (separator : Char) (text : List Char) : Option (List Char × List Char) :=
  match text.dropWhile (· != separator) with
  | [] => none
  | _ :: after => some (text.takeWhile (· != separator), after)

/-- The line feed, which ends a line. -/
def lineFeed : UInt8 := 10

/-- The carriage return, which may stand before a line feed. -/
def carriageReturn : UInt8 := 13

/-- The lines of a file without the line feeds that end them. -/
def lines (bytes : List UInt8) : List (List UInt8) :=
  let pieces := splitWhere (· == lineFeed) bytes
  if pieces.getLast? = some [] then pieces.dropLast else pieces

/-- A line without one carriage return at its end. -/
def dropReturn (line : List UInt8) : List UInt8 :=
  if line.getLast? = some carriageReturn then line.dropLast else line

/-- The texts one after the other with a separator between each two. -/
def join (separator : String) : List String → String
  | [] => ""
  | [text] => text
  | text :: rest => text ++ separator ++ join separator rest

end SeriesPlot.Text
