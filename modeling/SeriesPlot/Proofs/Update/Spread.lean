import SeriesPlot.Proofs.Update.Pins

/-!
# `SeriesPlot.Proofs.Update.Spread`: expansions and contractions

Arrows both ways move the edges apart or together. The distance is measured once, in seconds
that are negative for a contraction, and one edge takes the opposite of what the other one takes.
As rounding treats opposite numbers alike, both edges move by one number of milliseconds
(`Edges.shift_eq_to_iff_of_isSpread`), and the middle between them stays. What makes a
contraction of an expansion is one sign, which can as well be that of the number: a contraction
by the opposite number is the same change (`Edges.spread_symmetric`).

* `Shift.IsSpread`, `Shift.IsReversal`: an expansion or a contraction without bars, and two that are
  the same change.
* `Shift.IsReversal.outwardRatio?_eq`: the sign of the number and that of the direction cancel each
  other, before anything is rounded. So both are skipped for the same reason too
  (`Shift.IsReversal.skipReason?_eq`).
-/

set_option autoImplicit false

namespace SeriesPlot

namespace Binary64

/-- Two negations cancel, also of zeros and infinities. -/
@[simp] theorem neg_neg (x : Binary64) : - -x = x := by
  cases x with
  | nan => rfl
  | infinite negative => simp
  | finite negative m => simp

/-- A number and its opposite have one absolute value. -/
@[simp] theorem abs_neg (x : Binary64) : (-x).abs = x.abs := by
  cases x <;> rfl

end Binary64

namespace Shift

/-- An expansion or a contraction without bars. -/
structure IsSpread (s : Shift) : Prop where
  bothWays : s.direction.isBothWays = true
  pin : s.pin = .free

/-- An expansion by a number and a contraction by the opposite number of the same units. -/
structure IsReversal (apart together : Shift) : Prop where
  expand : apart.direction = .expand
  contract : together.direction = .contract
  magnitude : ∃ v, apart.magnitude = some v ∧ together.magnitude = some (-v)
  unit : together.unit = apart.unit
  pins : apart.pin = .free ∧ together.pin = .free

variable {s apart together : Shift}

/-- A spread has no bars, so not two of them. -/
theorem IsSpread.pin_ne_both (h : s.IsSpread) : s.pin ≠ .both := by
  simp [h.pin]

/-- The expansion of a reversal is a spread. -/
theorem IsReversal.isSpread_apart (h : apart.IsReversal together) : apart.IsSpread :=
  ⟨by rw [h.expand]; rfl, h.pins.1⟩

/-- The contraction of a reversal is a spread. -/
theorem IsReversal.isSpread_together (h : apart.IsReversal together) : together.IsSpread :=
  ⟨by rw [h.contract]; rfl, h.pins.2⟩

/-- The sign of the number and that of the direction cancel each other. -/
theorem IsReversal.outwardRatio?_eq (h : apart.IsReversal together) :
    Edges.outwardRatio? together (together.direction == .expand) =
      Edges.outwardRatio? apart (apart.direction == .expand) := by
  obtain ⟨v, hapart, htogether⟩ := h.magnitude
  unfold Edges.outwardRatio?
  rw [hapart, htogether, h.expand, h.contract]
  by_cases hzero : v.abs < ratioThreshold
  · simp [hzero]
  · simp [hzero, Binary64.neg_mul]

/-- A shift that is a spread is skipped for the reasons of a spread alone. -/
theorem spreadSkipReason?_eq (h : s.IsSpread) :
    s.skipReason? = s.spreadSkipReason? (s.direction == .expand) := by
  unfold skipReason?
  rw [if_neg h.pin_ne_both]
  cases hd : s.direction with
  | expand => rfl
  | contract => rfl
  | resize => exact absurd h.bothWays (by simp [hd, Direction.isBothWays])
  | forward => exact absurd h.bothWays (by simp [hd, Direction.isBothWays])
  | backward => exact absurd h.bothWays (by simp [hd, Direction.isBothWays])

/-- Both shifts of a reversal are skipped for the same reason. -/
theorem IsReversal.skipReason?_eq (h : apart.IsReversal together) :
    together.skipReason? = apart.skipReason? := by
  obtain ⟨v, hapart, htogether⟩ := h.magnitude
  rw [spreadSkipReason?_eq h.isSpread_apart, spreadSkipReason?_eq h.isSpread_together]
  unfold spreadSkipReason?
  rw [h.outwardRatio?_eq, h.unit, hapart, htogether]
  simp

end Shift

namespace Edges

variable {e moved : Edges} {s apart together : Shift}

/-- The seconds by which either edge moves outwards; none if an explicit number is zero. -/
def outwardSeconds? (e : Edges) (s : Shift) : Option Binary64 :=
  (outwardRatio? s (s.direction == .expand)).map fun ratio =>
    match s.unit with
    | some unit => (spanSeconds ratio.abs unit e.start).copySign ratio
    | none => ratio * e.seconds

/-- The milliseconds by which either edge moves outwards; none if there are too many. -/
def outwardMillis? (e : Edges) (s : Shift) : Option Int :=
  (e.outwardSeconds? s).bind wholeMillis?

/-- Two edges are reached, or one of them is out of range. -/
theorem ofEdges?_cases (start stop : Option Instant) :
    (∃ moved, Move.ofEdges? start stop = .to moved) ∨
      Move.ofEdges? start stop = .outOfRange := by
  unfold Move.ofEdges?
  split
  · exact .inl ⟨_, rfl⟩
  · exact .inr rfl

/-- What is not skipped is done with the seconds that it is about. -/
theorem exists_shift_eq_of_isSpread (h : s.IsSpread) (hreason : s.skipReason? = none) :
    ∃ seconds, e.outwardSeconds? s = some seconds ∧
      e.shift s = .ofEdges? (e.start.offset? (-seconds)) (e.stop.offset? seconds) := by
  have hkept (notice : Notice) : e.spread s (s.direction == .expand) ≠ .skipped notice := by
    rw [← shift_eq_spread h.bothWays h.pin_ne_both, Ne, shift_eq_skipped_iff, hreason]
    simp
  rw [shift_eq_spread h.bothWays h.pin_ne_both]
  unfold spread at hkept ⊢
  unfold outwardSeconds?
  -- Each branch that skips is excluded, and the others move by the seconds.
  cases hratio : outwardRatio? s (s.direction == .expand) with
  | none => simp [hratio] at hkept
  | some ratio =>
    cases hunit : s.unit with
    | some unit => exact ⟨_, rfl, rfl⟩
    | none =>
      by_cases hcollapse : ratio ≤ collapseRatio
      · simp [hratio, hunit, hcollapse] at hkept
      · simp [hcollapse]

/-- A shift with a reason to be skipped is skipped, from any edges. -/
theorem shift_eq_skipped_of_reason {reason : SkipReason} (hreason : s.skipReason? = some reason) :
    e.shift s = .skipped (.shiftSkipped s.word reason) := by
  rw [shift_eq_skipped_iff, hreason]
  rfl

/-- An expansion or contraction leads somewhere iff it is not skipped and both edges can move by
its milliseconds. -/
theorem shift_eq_to_iff_of_isSpread (h : s.IsSpread) :
    e.shift s = .to moved ↔
      s.skipReason? = none ∧ ∃ d, e.outwardMillis? s = some d ∧ e.MovedApartBy d moved := by
  cases hreason : s.skipReason? with
  | some reason => simp [shift_eq_skipped_of_reason hreason]
  | none =>
    obtain ⟨seconds, hseconds, hshift⟩ := exists_shift_eq_of_isSpread (e := e) h hreason
    rw [hshift, ofEdges?_outwards_eq_to_iff, outwardMillis?, hseconds]
    simp

/-- Both shifts of a reversal move the edges outwards by the same seconds. -/
theorem outwardSeconds?_reversal (h : apart.IsReversal together) :
    e.outwardSeconds? together = e.outwardSeconds? apart := by
  unfold outwardSeconds?
  rw [h.outwardRatio?_eq, h.unit]

/-- An expansion or a contraction without bars that leads somewhere moves both edges by one whole
number of milliseconds, in opposite directions. So the middle between the edges stays. It does
lead somewhere unless it is skipped or the seconds are too many for the range. An expansion by a
number and a contraction by the opposite number lead to the same edges, or they are skipped for
one reason, or both lead out of range. -/
theorem spread_symmetric (e : Edges) (s : Shift) (h : s.IsSpread) :
    (∀ moved, e.shift s = .to moved ↔
      s.skipReason? = none ∧ ∃ d, e.outwardMillis? s = some d ∧ e.MovedApartBy d moved) ∧
    (∀ moved, e.shift s = .to moved →
      ∃ d : Int, moved.start.millis = e.start.millis - d ∧
        moved.stop.millis = e.stop.millis + d ∧
        moved.start.millis + moved.stop.millis = e.start.millis + e.stop.millis) ∧
    ∀ together, s.IsReversal together →
      (∃ moved, e.shift s = .to moved ∧ e.shift together = .to moved) ∨
      (∃ reason, e.shift s = .skipped (.shiftSkipped s.word reason) ∧
        e.shift together = .skipped (.shiftSkipped together.word reason)) ∨
      (e.shift s = .outOfRange ∧ e.shift together = .outOfRange) := by
  refine ⟨fun moved => shift_eq_to_iff_of_isSpread h, fun moved hmoved => ?_,
    fun together hreversal => ?_⟩
  · obtain ⟨-, d, -, hstart, hstop⟩ := (shift_eq_to_iff_of_isSpread h).mp hmoved
    exact ⟨d, hstart, hstop, by omega⟩
  · cases hreason : s.skipReason? with
    | some reason =>
      have hreason' := hreversal.skipReason?_eq.trans hreason
      exact .inr (.inl ⟨reason, shift_eq_skipped_of_reason hreason,
        shift_eq_skipped_of_reason hreason'⟩)
    | none =>
      -- Both are done with the same seconds.
      obtain ⟨seconds, hseconds, hshift⟩ := exists_shift_eq_of_isSpread (e := e) h hreason
      obtain ⟨seconds', hseconds', hshift'⟩ := exists_shift_eq_of_isSpread (e := e)
        hreversal.isSpread_together (hreversal.skipReason?_eq.trans hreason)
      rw [outwardSeconds?_reversal hreversal, hseconds] at hseconds'
      cases hseconds'
      rw [hshift, hshift']
      rcases ofEdges?_cases (e.start.offset? (-seconds)) (e.stop.offset? seconds) with
        ⟨moved, hmoved⟩ | hout
      · exact .inl ⟨moved, hmoved, hmoved⟩
      · exact .inr (.inr ⟨hout, hout⟩)

/-- A contraction by a tenth of a month moves the edges of ten hours past each other, and so does
an expansion by minus a tenth of a month. -/
theorem spread_symmetric_of_months :
    let e := Session.sample.config.window.edges
    let apart : Shift := { word := "<>-0.1m", direction := .expand, intensity := 1,
                           magnitude := some (-0.1), unit := some .month, pin := .free,
                           stopAnchored := false }
    let together : Shift :=
      { apart with word := "><0.1m", direction := .contract, magnitude := some 0.1 }
    Line.parse "<>-0.1m" = .command { times := [.shift apart] } ∧
      Line.parse "><0.1m" = .command { times := [.shift together] } ∧
      apart.IsSpread ∧ apart.IsReversal together ∧
      ∃ moved, e.shift apart = .to moved ∧ e.shift together = .to moved ∧
        moved.start.millis = e.start.millis + 129600000 ∧
        moved.start.millis + moved.stop.millis = e.start.millis + e.stop.millis := by
  intro e apart together
  have hreversal : apart.IsReversal together :=
    ⟨rfl, rfl, ⟨-0.1, rfl, by decide +kernel⟩, rfl, rfl, rfl⟩
  let moved : Edges :=
    ⟨⟨1370174400000, by decide, by decide⟩, ⟨1369951200000, by decide, by decide⟩⟩
  have hmoved : e.shift apart = .to moved := by decide +kernel
  obtain ⟨-, hmiddle, hsame⟩ := spread_symmetric e apart hreversal.isSpread_apart
  obtain ⟨d, -, -, hsum⟩ := hmiddle moved hmoved
  have htogether : e.shift together = .to moved := by
    -- The expansion has led somewhere, so the contraction leads there as well.
    rcases hsame together hreversal with ⟨reached, h, h'⟩ | ⟨reason, h, -⟩ | ⟨h, -⟩
    · rw [hmoved] at h
      cases h
      exact h'
    · rw [hmoved] at h
      cases h
    · rw [hmoved] at h
      cases h
  exact ⟨by decide +kernel, by decide +kernel, hreversal.isSpread_apart, hreversal, moved, hmoved,
    htogether, by decide, hsum⟩

end Edges

end SeriesPlot
