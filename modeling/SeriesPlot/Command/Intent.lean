import SeriesPlot.Command.Option
import SeriesPlot.Command.Selector
import SeriesPlot.Command.TimeToken
import SeriesPlot.Config.YRange

/-!
# `SeriesPlot.Command.Intent`: what a word asks for

The kinds of words are tried in a fixed order, and the first that fits decides:
`i`; a `y` range; options; the column steps `vn` and `vp`; a selector; a time
token. A word that fits none is unknown.
-/

set_option autoImplicit false

namespace SeriesPlot

/-- Why a word of a known kind cannot be used. -/
inductive WordFault where
  | time (e : TimeError)
  | notANumber (text : String)
deriving DecidableEq

/-- What the user is told. -/
def WordFault.message : WordFault → String
  | time e => e.message
  | notANumber text => "'" ++ text ++ "' is not a number"

/-- A word of a known kind that cannot be used, and why. -/
structure InvalidWord where
  word : String
  fault : WordFault
deriving DecidableEq

/-- What one word asks for. -/
inductive Intent where
  | info
  | yRange (range : YRange)
  | options (changes : List OptionChange)
  | select (change : SelectionChange)
  | time (token : TimeToken)
  | invalid (word : InvalidWord)
  | unknown (word : String)
deriving DecidableEq

namespace Intent

/-- An ASCII character that is neither a letter, a digit, a blank nor a control
character. -/
def isPunctuation (c : Char) : Bool :=
  '!' ≤ c && c ≤ '~' && !c.isAlphanum

/-- One bound of a value range; an empty text is no bound. -/
def yBound (text : List Char) : Except WordFault (Option Binary64) :=
  if text.isEmpty then .ok none
  else match Binary64.ofText? text with
    | some x => .ok (some x)
    | none => .error (.notANumber (String.ofList text))

/-- The bounds before and after one punctuation character, which there need not
be; none if the text has another form. -/
def yParts? (text : List Char) : Option (List Char × List Char) :=
  let low := text.takeWhile isMagnitudeChar
  match text.dropWhile isMagnitudeChar with
  | [] => some (low, [])
  | separator :: high =>
    if isPunctuation separator && high.all isMagnitudeChar then some (low, high) else none

/-- What a word that starts with `y` asks for, given the text after it. -/
def ofYWord (word text : List Char) : Intent :=
  match yParts? text with
  | none => unknown (String.ofList word)
  | some (lowText, highText) =>
    let range : Except WordFault YRange := do
      let low ← yBound lowText
      let high ← yBound highText
      return { low, high }
    match range with
    | .ok r => yRange r
    | .error fault => invalid ⟨String.ofList word, fault⟩

/-- What a word asks for. -/
def ofWord (word : List Char) : Intent :=
  match word with
  | ['i'] => info
  | 'y' :: text => ofYWord word text
  | '-' :: text => options (OptionChange.parseList text)
  | ['v', 'n'] => select .next
  | ['v', 'p'] => select .previous
  | _ =>
    match Selection.parse? word with
    | some selection => select (.select selection)
    | none =>
      match TimeToken.parse? word with
      | some (.ok token) => time token
      | some (.error e) => invalid ⟨String.ofList word, .time e⟩
      | none => unknown (String.ofList word)

end Intent

end SeriesPlot
