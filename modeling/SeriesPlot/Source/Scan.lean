import SeriesPlot.Source
import SeriesPlot.Text.Split
import SeriesPlot.Text.Utf8

/-!
# `SeriesPlot.Source.Scan`: reading a file's head and tail

A file is read once, line by line. A line that starts with a digit is a sample.
Kept on the way are the first sample and the header, if they are among the first
lines, and the sample seen last with its line number; whether that one is near
enough to the end shows when all lines have been counted.
-/

set_option autoImplicit false

namespace SeriesPlot

open SeriesPlot.Text

/-- How many lines count as the head of a file, and how many as its tail. -/
def scanDepth : Nat := 100

/-- What has been kept of the lines read so far. -/
structure Scan where
  lineCount : Nat := 0
  firstSample : Option (List UInt8) := none
  header : Option (List UInt8) := none
  /-- The number and the bytes of the sample seen last. -/
  lastSample : Option (Nat × List UInt8) := none

/-- Whether one text occurs in the other. -/
def containsText (part : List Char) : List Char → Bool
  | [] => part.isEmpty
  | c :: text => part.isPrefixOf (c :: text) || containsText part text

/-- A line that starts with an ASCII digit. -/
def isSample (line : List UInt8) : Bool :=
  match line with
  | [] => false
  | b :: _ => '0'.toUInt8 ≤ b && b ≤ '9'.toUInt8

/-- A line with the word `fields` in any letter case. -/
def isHeader (line : List UInt8) : Bool :=
  containsText "fields".toList ((Utf8.decodeLossy line).map Char.toLower)

namespace Scan

/-- Reads one more line. -/
def feed (s : Scan) (line : List UInt8) : Scan :=
  let lineCount := s.lineCount + 1
  let inHead := lineCount ≤ scanDepth
  { lineCount
    firstSample :=
      if inHead ∧ s.firstSample.isNone ∧ isSample line then some line else s.firstSample
    header := if inHead ∧ s.header.isNone ∧ isHeader line then some line else s.header
    lastSample := if isSample line then some (lineCount, line) else s.lastSample }

/-- What is kept of a file. -/
def ofBytes (bytes : List UInt8) : Scan :=
  ((lines bytes).map dropReturn).foldl feed {}

/-- The sample seen last, if it is among the last lines. -/
def tailSample (s : Scan) : Option (List UInt8) :=
  match s.lastSample with
  | some (number, line) => if s.lineCount < number + scanDepth then some line else none
  | none => none

end Scan

/-- The comma-separated names of a header line after the first, which is the
name of the time column. -/
def columnNames (header : List UInt8) : List String :=
  ((splitOn ',' (trim (Utf8.decodeLossy header))).drop 1).map fun name =>
    String.ofList (trim name)

/-- The time of a sample: its text up to the first comma. -/
def sampleTime (line : List UInt8) : Except TimeError Instant :=
  TimeLiteral.read (String.ofList ((Utf8.decodeLossy line).takeWhile (· != ',')))

/-- The source that a file's content describes. -/
def Source.ofBytes (letter : Char) (label : String) (bytes : List UInt8) :
    Except SourceError Source := do
  let scan := Scan.ofBytes bytes
  match scan.firstSample, scan.tailSample with
  | some first, some last =>
    let start ← (sampleTime first).mapError (SourceError.badTime label)
    let stop ← (sampleTime last).mapError (SourceError.badTime label)
    return { letter, start, stop, names := (scan.header.map columnNames).getD [], label }
  | _, _ => throw (.noSamples label)

end SeriesPlot
