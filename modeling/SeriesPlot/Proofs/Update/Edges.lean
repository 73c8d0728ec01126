import SeriesPlot.Update.Edges

/-!
# `SeriesPlot.Proofs.Update.Edges`: time tokens as one fold over the edges

A time token is skipped for reasons of its own, never because of where the edges are
(`step_eq_skipped_iff`). So what a list of tokens does can be said without notices:
`Edges.after?` is the effect of one token, where a skipped token has none, and the edges
after all of them are its fold from the left. The fold does not look at the order of the
edges. `run_eq` also says what the user is told on the way.

* `Shift.skipReason?`, `TimeToken.skipNotice?`: why a token is skipped, read off the token.
* `Edges.after?_of_skipNotice?`, `Edges.after?_eq_some_iff`: a skipped token leaves the edges, and
  any other one leads where its step moves to.
* `Edges.reached`: the tokens that a run gets to. If none of them leads out of range these are all
  (`Edges.reached_eq_self`), and the user is told about those that are skipped.

The theorems on single kinds of tokens are about `Edges.after?`, and those on whole commands about
its fold.
-/

set_option autoImplicit false

namespace SeriesPlot

namespace Shift

/-- Why an expansion or contraction is skipped: its explicit ratio is zero, or it is a part
of the width that leaves nothing of it. -/
def spreadSkipReason? (s : Shift) (outwards : Bool) : Option SkipReason :=
  if s.magnitude.any fun v => v.abs < ratioThreshold then some .zeroChange
  else if s.unit.isNone &&
      (Edges.outwardRatio? s outwards).any fun ratio => ratio ≤ collapseRatio then
    some .shrinkTooFar
  else none

/-- Why a relative change is skipped; none if it is carried out. -/
def skipReason? (s : Shift) : Option SkipReason :=
  if s.pin = .both then some .bothEdgesPinned
  else match s.direction with
    | .expand => s.spreadSkipReason? true
    | .contract => s.spreadSkipReason? false
    | _ => none

end Shift

/-- What the user is told about a token that is skipped; none if it is not skipped. -/
def TimeToken.skipNotice? (set : SourceSet) : TimeToken → Option Notice
  | source letter => if (set.get? letter).isNone then some (.noSuchSource letter) else none
  | shift s => s.skipReason?.map (.shiftSkipped s.word)
  | _ => none

namespace Edges

/-- The edges after a token: the same ones if the token is skipped, and none if an edge
would leave the representable range. -/
def after? (set : SourceSet) (e : Edges) (token : TimeToken) : Option Edges :=
  match e.step set token with
  | .to moved => some moved
  | .skipped _ => some e
  | .outOfRange => none

/-- The tokens that are reached, which are those before the first that leads out of range. -/
def reached (set : SourceSet) : Edges → List TimeToken → List TimeToken
  | _, [] => []
  | e, token :: rest =>
    match e.after? set token with
    | some moved => token :: reached set moved rest
    | none => []

/-! ### One token -/

/-- Two edges are reached or they are not; either way nothing is skipped. -/
theorem ofEdges?_ne_skipped (start stop : Option Instant) (notice : Notice) :
    Move.ofEdges? start stop ≠ .skipped notice := by
  unfold Move.ofEdges?
  split <;> simp

/-- A change of the width is never skipped. -/
theorem resize_ne_skipped (e : Edges) (pin : Pin) (amount : Binary64) (notice : Notice) :
    e.resize pin amount ≠ .skipped notice := by
  unfold resize
  split <;> exact ofEdges?_ne_skipped _ _ _

/-- A move one way is never skipped. -/
theorem travel_ne_skipped (e : Edges) (s : Shift) (amount : Binary64) (later : Bool)
    (notice : Notice) : e.travel s amount later ≠ .skipped notice := by
  unfold travel
  split
  · exact ofEdges?_ne_skipped _ _ _
  · exact ofEdges?_ne_skipped _ _ _
  · unfold slide
    split <;> exact ofEdges?_ne_skipped _ _ _

/-- There is a ratio unless an explicit one is zero. -/
theorem outwardRatio?_eq_none_iff (s : Shift) (outwards : Bool) :
    outwardRatio? s outwards = none ↔ (s.magnitude.any fun v => v.abs < ratioThreshold) := by
  unfold outwardRatio?
  cases s.magnitude with
  | none => simp
  | some v => by_cases h : v.abs < ratioThreshold <;> simp [h]

/-- A spread is skipped iff its parts give a reason, and the notice names its word. -/
theorem spread_eq_skipped_iff (e : Edges) {s : Shift} (outwards : Bool) {notice : Notice} :
    e.spread s outwards = .skipped notice ↔
      (s.spreadSkipReason? outwards).map (Notice.shiftSkipped s.word) = some notice := by
  unfold spread Shift.spreadSkipReason?
  cases hratio : outwardRatio? s outwards with
  | none => simp [(outwardRatio?_eq_none_iff s outwards).mp hratio]
  | some ratio =>
    have hnonzero : ¬(s.magnitude.any fun v => v.abs < ratioThreshold) = true := by
      rw [← outwardRatio?_eq_none_iff s outwards, hratio]
      simp
    rw [if_neg hnonzero]
    cases hunit : s.unit with
    | some unit => simp [ofEdges?_ne_skipped]
    | none =>
      -- Only without a unit can there be too little left of the width.
      by_cases hcollapse : ratio ≤ collapseRatio <;>
        simp [hcollapse, ofEdges?_ne_skipped]

/-- A shift is skipped iff its parts give a reason. The edges have no say in it. -/
theorem shift_eq_skipped_iff (e : Edges) {s : Shift} {notice : Notice} :
    e.shift s = .skipped notice ↔
      s.skipReason?.map (Notice.shiftSkipped s.word) = some notice := by
  unfold shift Shift.skipReason?
  by_cases hpin : s.pin = .both
  · simp [hpin]
  · rw [if_neg hpin, if_neg hpin]
    cases s.direction with
    | resize => simp [resize_ne_skipped]
    | forward => simp [travel_ne_skipped]
    | backward => simp [travel_ne_skipped]
    | expand => exact spread_eq_skipped_iff e true
    | contract => exact spread_eq_skipped_iff e false

/-- Which tokens are skipped, and what is said about them, does not depend on the edges. -/
theorem step_eq_skipped_iff (e : Edges) (set : SourceSet) {token : TimeToken}
    {notice : Notice} :
    e.step set token = .skipped notice ↔ token.skipNotice? set = some notice := by
  unfold step TimeToken.skipNotice?
  cases token with
  | start t => simp
  | stop t => simp
  | centre t => simp [ofEdges?_ne_skipped]
  | full => simp
  | overlap => cases set.overlap <;> simp
  | source letter => cases hsource : set.get? letter <;> simp [hsource]
  | shift s => exact shift_eq_skipped_iff e

/-- A token that is skipped leaves the edges where they are. -/
theorem after?_of_skipNotice? {set : SourceSet} {token : TimeToken} {notice : Notice}
    (h : token.skipNotice? set = some notice) (e : Edges) : e.after? set token = some e := by
  unfold after?
  rw [(step_eq_skipped_iff e set).mpr h]

/-- For a token that is not skipped, the edges after it are those it moves to. -/
theorem after?_eq_some_iff {set : SourceSet} {e moved : Edges} {token : TimeToken}
    (h : ∀ notice, e.step set token ≠ .skipped notice) :
    e.after? set token = some moved ↔ e.step set token = .to moved := by
  unfold after?
  match hstep : e.step set token with
  | .to reached => simp
  | .skipped notice => exact absurd hstep (h notice)
  | .outOfRange => simp

/-! ### Lists of tokens -/

/-- A run is the fold of its tokens, and tells of those it reaches and skips. -/
theorem run_eq (e : Edges) (set : SourceSet) (tokens : List TimeToken) :
    e.run set tokens =
      (tokens.foldlM (after? set) e, (reached set e tokens).filterMap (·.skipNotice? set)) := by
  induction tokens generalizing e with
  | nil => rfl
  | cons token rest ih =>
    unfold run reached
    rw [List.foldlM_cons]
    match hstep : e.step set token with
    -- A token that moves the edges is not one that is told about.
    | .to moved =>
      have hafter : e.after? set token = some moved := by rw [after?, hstep]
      have htold : token.skipNotice? set = none := by
        rw [Option.eq_none_iff_forall_ne_some]
        intro notice hnotice
        rw [(step_eq_skipped_iff e set).mpr hnotice] at hstep
        cases hstep
      simp [hafter, htold, ih]
    | .skipped notice =>
      have hafter : e.after? set token = some e := by rw [after?, hstep]
      simp [hafter, (step_eq_skipped_iff e set).mp hstep, ih]
    | .outOfRange =>
      have hafter : e.after? set token = none := by rw [after?, hstep]
      simp [hafter]

/-- All tokens are reached if none of them leads out of range. -/
theorem reached_eq_self {set : SourceSet} {e last : Edges} {tokens : List TimeToken}
    (h : tokens.foldlM (after? set) e = some last) : reached set e tokens = tokens := by
  induction tokens generalizing e with
  | nil => rfl
  | cons token rest ih =>
    rw [List.foldlM_cons] at h
    obtain ⟨moved, hafter, hrest⟩ := Option.bind_eq_some_iff.mp h
    unfold reached
    rw [hafter]
    exact congrArg (token :: ·) (ih hrest)

end Edges

end SeriesPlot
