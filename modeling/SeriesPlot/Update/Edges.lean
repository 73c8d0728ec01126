import SeriesPlot.Source.Set
import SeriesPlot.Update.Notice

/-!
# `SeriesPlot.Update.Edges`: moving the edges of the window

The time tokens of a command act on a pair of edges one after the other, each on
what the one before has left, even if the edges are then out of order. Only the
last pair has to be a window; if it is not, or if a token leaves the
representable range, the window stays as it was.

* `Edges.step`: the effect of one token.
* `Edges.run`: the effect of a list of tokens.
* `Window.change`: the window after the tokens of a command.
-/

set_option autoImplicit false

namespace SeriesPlot

/-- Two edges that need not be in order. -/
structure Edges where
  start : Instant
  stop : Instant
deriving DecidableEq, Inhabited

/-- What a time token does. -/
inductive Move where
  /-- The edges move, or stay where they are for a token that has no effect. -/
  | to (edges : Edges)
  /-- The token is skipped. -/
  | skipped (notice : Notice)
  /-- An edge would leave the representable range. -/
  | outOfRange
deriving DecidableEq

/-- The move to a pair of edges, if both are representable. -/
def Move.ofEdges? (start stop : Option Instant) : Move :=
  match start, stop with
  | some start, some stop => .to ⟨start, stop⟩
  | _, _ => .outOfRange

/-- The half of an explicit ratio goes to either edge. -/
def explicitRatioScale : Binary64 := 0.5

/-- Without a ratio, either edge expands by this part of the width. -/
def usualExpansion : Binary64 := 1 / 3

/-- Without a ratio, either edge contracts by this part of the width. -/
def usualContraction : Binary64 := 0.2

/-- At this ratio on either edge nothing is left of the window. -/
def collapseRatio : Binary64 := -0.5

/-- Ratios of a smaller magnitude are zero. -/
def ratioThreshold : Binary64 := .ofRatio false 1 (Nat.pow 2 52)

/-- Calendar jumps count in whole units, at least one. -/
def wholeUnits (length : Binary64) : Nat :=
  (length.clampWhole? 1 4294967295).getD 0

namespace Edges

/-- The distance of the edges in seconds. -/
def seconds (e : Edges) : Binary64 := secondsBetween e.start e.stop

/-- The month that begins `n` months after the month of `t` begins, or before it
if `later` is false, with a stop another `n` months on. -/
def monthJump (t : Instant) (n : Nat) (later : Bool) : Move :=
  let start := (if later then t.addMonths? n else t.subMonths? n).map Instant.monthStart
  .ofEdges? start (start.bind fun s => (s.addMonths? n).map Instant.monthStart)

/-- The year that begins `n` years after the year of `t` begins, or before it if
`later` is false, with a stop another `n` years on. -/
def yearJump (t : Instant) (n : Nat) (later : Bool) : Move :=
  let yearStart (t : Instant) : Option Instant := Instant.yearStart? t.date.year
  let start := (if later then t.addYears? n else t.subYears? n).bind yearStart
  .ofEdges? start (start.bind fun s => (s.addYears? n).bind yearStart)

/-- The effect of a change without arrows: the width becomes `amount` seconds,
around the middle unless an edge is pinned. -/
def resize (e : Edges) (pin : Pin) (amount : Binary64) : Move :=
  match pin with
  | .start => .ofEdges? (some e.start) (e.start.offset? amount)
  | .stop => .ofEdges? (e.stop.offset? (-amount)) (some e.stop)
  | _ =>
    let middle := e.start.offset? (e.seconds / 2)
    .ofEdges? (middle.bind (·.offset? (-amount / 2))) (middle.bind (·.offset? (amount / 2)))

/-- The effect of moving by `amount` seconds: both edges move unless one is
pinned. -/
def slide (e : Edges) (pin : Pin) (amount : Binary64) : Move :=
  match pin with
  | .free => .ofEdges? (e.start.offset? amount) (e.stop.offset? amount)
  | .start => .ofEdges? (some e.start) (e.stop.offset? amount)
  | _ => .ofEdges? (e.start.offset? amount) (some e.stop)

/-- The effect of arrows one way. Free moves by months and years are jumps to
the start of a calendar period; all others slide by `amount` seconds. -/
def travel (e : Edges) (s : Shift) (amount : Binary64) (later : Bool) : Move :=
  match s.pin, s.unit with
  | .free, some .month => monthJump e.start (wholeUnits s.length) later
  | .free, some .year => yearJump e.start (wholeUnits s.length) later
  | pin, _ => e.slide pin (if later then amount else -amount)

/-- The part of the width, or the number of units, by which either edge moves
outwards; none if an explicit one is zero. -/
def outwardRatio? (s : Shift) (outwards : Bool) : Option Binary64 :=
  let ratio := match s.magnitude with
    | none => some (if outwards then usualExpansion else usualContraction)
    | some v => if v.abs < ratioThreshold then none else some (v * explicitRatioScale)
  ratio.map fun r => if outwards then r else -r

/-- The effect of arrows both ways: the edges move apart or together by the same
distance. A contraction by a ratio is skipped if it would leave nothing. -/
def spread (e : Edges) (s : Shift) (outwards : Bool) : Move :=
  match outwardRatio? s outwards with
  | none => .skipped (.shiftSkipped s.word .zeroChange)
  | some ratio =>
    let outwardsBy (distance : Binary64) : Move :=
      .ofEdges? (e.start.offset? (-distance)) (e.stop.offset? distance)
    match s.unit with
    | some unit => outwardsBy ((spanSeconds ratio.abs unit e.start).copySign ratio)
    | none =>
      if ratio ≤ collapseRatio then .skipped (.shiftSkipped s.word .shrinkTooFar)
      else outwardsBy (ratio * e.seconds)

/-- The seconds that a relative change is about. Years and months are measured
from the start edge. -/
def amountOf (e : Edges) (s : Shift) : Binary64 :=
  match s.unit with
  | some unit => spanSeconds s.length unit e.start
  | none => s.length * e.seconds

/-- The effect of a relative change. -/
def shift (e : Edges) (s : Shift) : Move :=
  if s.pin = .both then .skipped (.shiftSkipped s.word .bothEdgesPinned)
  else match s.direction with
    | .resize => e.resize s.pin (e.amountOf s)
    | .forward => e.travel s (e.amountOf s) true
    | .backward => e.travel s (e.amountOf s) false
    | .expand => e.spread s true
    | .contract => e.spread s false

/-- The effect of one token. -/
def step (e : Edges) (set : SourceSet) : TimeToken → Move
  | .start t => .to { e with start := t }
  | .stop t => .to { e with stop := t }
  | .centre t => .ofEdges? (t.offset? (-e.seconds / 2)) (t.offset? (e.seconds / 2))
  | .full => .to ⟨set.union.start, set.union.stop⟩
  | .overlap =>
    match set.overlap with
    | some w => .to ⟨w.start, w.stop⟩
    | none => .to e
  | .source letter =>
    match set.get? letter with
    | some s => .to ⟨s.start, s.stop⟩
    | none => .skipped (.noSuchSource letter)
  | .shift s => e.shift s

/-- The edges after some tokens, and what the user is told; no edges if a token
left the representable range, which ends the run. -/
def run (e : Edges) (set : SourceSet) : List TimeToken → Option Edges × List Notice
  | [] => (some e, [])
  | token :: rest =>
    match e.step set token with
    | .to moved => moved.run set rest
    | .skipped notice =>
      let (edges, notices) := e.run set rest
      (edges, notice :: notices)
    | .outOfRange => (none, [])

end Edges

namespace Window

/-- The edges of a window. -/
def edges (w : Window) : Edges := ⟨w.start, w.stop⟩

/-- The window after the tokens of a command, and what the user is told. -/
def change (w : Window) (set : SourceSet) (tokens : List TimeToken) : Window × List Notice :=
  let (edges, notices) := w.edges.run set tokens
  match edges.bind fun e => of? e.start e.stop with
  | some changed => (changed, notices)
  | none => (w, notices ++ [.windowRejected])

end Window

end SeriesPlot
