import SeriesPlot.Command

/-!
# `SeriesPlot.Update.Notice`: what the user is told about a command

None of these stops a command: whatever can be done of it is done.
-/

set_option autoImplicit false

namespace SeriesPlot

/-- Why a relative change of the window is skipped. -/
inductive SkipReason where
  /-- It would contract the window to nothing. -/
  | shrinkTooFar
  /-- It expands or contracts by zero. -/
  | zeroChange
  /-- Both edges are pinned. -/
  | bothEdgesPinned
deriving DecidableEq, Inhabited

/-- What the user is told about a command. -/
inductive Notice where
  | unknownWord (word : String)
  | invalidWord (word : InvalidWord)
  | unsupportedOption (name : String)
  | invalidOptionValue (name value : String)
  | shiftSkipped (word : String) (reason : SkipReason)
  | noSuchSource (letter : Char)
  /-- The changed window would be empty or out of range; the old one is kept. -/
  | windowRejected
  | noFileExists
deriving DecidableEq

/-- The text of a notice. -/
def Notice.text : Notice → String
  | unknownWord word => "change unsupported: " ++ word
  | invalidWord word => "ignoring " ++ word.word ++ ": " ++ word.fault.message
  | unsupportedOption name => "change to plot options unsupported: " ++ name
  | invalidOptionValue name value =>
    "invalid value for plot option " ++ name ++ ": '" ++ value ++ "'"
  | shiftSkipped word .shrinkTooFar => "cannot shrink time axis by 100% or more: " ++ word
  | shiftSkipped word .zeroChange => "time axis change of 0% ignored: " ++ word
  | shiftSkipped word .bothEdgesPinned => "both ends of the time axis are pinned: " ++ word
  | noSuchSource letter => "no file " ++ letter.toString
  | windowRejected => "time axis start must be before its end; kept"
  | noFileExists => "no file exists"

end SeriesPlot
