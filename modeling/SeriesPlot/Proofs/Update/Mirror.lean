import SeriesPlot.Proofs.Update.Jumps

/-!
# `SeriesPlot.Proofs.Update.Mirror`: arrows turned around with the sign

A move by a number of units, and the move the other way by the opposite number, go by the
same number of seconds (`Edges.amountOf_mirror`). Where the seconds are all that counts, the
two are the same move (`Edges.after?_mirror`). A jump to calendar periods goes by whole periods
instead, by one at least. The sign of its number is not looked at, so the arrow alone says which way
it goes (`Edges.mirrored_moves`).

* `Shift.IsMirror`: the two moves, in any unit and with any edge held. They have opposite lengths
  and are skipped for the same reason.
* `wholeUnits_of_isNegative`: a negative length counts as one period, the least there is.
* `Edges.stop_lt_start_of_jumps`: of two mirrored jumps the earlier one ends before the later one
  begins.
-/

set_option autoImplicit false

namespace SeriesPlot

namespace Binary64

/-- A negation turns the sign around, if there is one. -/
theorem isNegative_neg {x : Binary64} (h : x ≠ nan) : (-x).isNegative = !x.isNegative := by
  cases x with
  | nan => exact absurd rfl h
  | infinite negative => rfl
  | finite negative m => rfl

end Binary64

/-- A negative length is clamped to one whole unit. -/
theorem wholeUnits_of_isNegative {x : Binary64} (h : x.isNegative = true) : wholeUnits x = 1 := by
  unfold wholeUnits
  cases x with
  | nan => cases h
  | infinite negative =>
    obtain rfl : negative = true := h
    rfl
  | finite negative m =>
    obtain rfl : negative = true := h
    rfl

namespace Shift

/-- A move later by a number, and a move earlier by the opposite number of the same units. -/
structure IsMirror (later earlier : Shift) : Prop where
  forward : later.direction = .forward
  backward : earlier.direction = .backward
  magnitude : ∃ v, earlier.magnitude = some v ∧ later.magnitude = some (-v)
  intensity : later.intensity = earlier.intensity
  unit : later.unit = earlier.unit
  pin : later.pin = earlier.pin

variable {later earlier : Shift}

/-- Mirrored shifts have opposite lengths. -/
theorem IsMirror.length_eq (h : later.IsMirror earlier) : later.length = -earlier.length := by
  obtain ⟨v, hearlier, hlater⟩ := h.magnitude
  rw [length, length, hlater, hearlier, h.intensity]
  exact Binary64.neg_mul v _

/-- Mirrored shifts are skipped for the same reason. -/
theorem IsMirror.skipReason?_eq (h : later.IsMirror earlier) :
    later.skipReason? = earlier.skipReason? := by
  unfold skipReason?
  rw [h.pin, h.forward, h.backward]

end Shift

namespace Edges

variable {e : Edges} {later earlier : Shift}

/-- Arrows turned around with the sign are about opposite numbers of seconds. -/
theorem amountOf_mirror (h : later.IsMirror earlier) :
    e.amountOf later = -e.amountOf earlier := by
  unfold amountOf
  rw [h.unit, h.length_eq]
  cases earlier.unit with
  | none => exact Binary64.neg_mul _ _
  | some unit => exact Binary64.mul_neg _ _

/-- A move that is not a jump only looks at the seconds and their sign. -/
theorem travel_mirror (h : later.IsMirror earlier)
    (hslides : later.pin = .free → later.unit ≠ some .month ∧ later.unit ≠ some .year) :
    e.travel later (e.amountOf later) true = e.travel earlier (e.amountOf earlier) false := by
  rw [amountOf_mirror h]
  unfold travel
  rw [← h.pin, ← h.unit]
  split
  case h_1 hpin hunit => exact absurd hunit (hslides hpin).1
  case h_2 hpin hunit => exact absurd hunit (hslides hpin).2
  case h_3 => rfl

/-- A shift with bars at both ends leaves the edges, as it is skipped. -/
theorem after?_of_bothPinned {s : Shift} (hpin : s.pin = .both) (e : Edges) (set : SourceSet) :
    e.after? set (.shift s) = some e := by
  have hskipped : (TimeToken.shift s).skipNotice? set =
      some (.shiftSkipped s.word .bothEdgesPinned) := by
    show s.skipReason?.map (Notice.shiftSkipped s.word) = _
    rw [Shift.skipReason?, if_pos hpin]
    rfl
  exact after?_of_skipNotice? hskipped e

/-- Mirrored shifts lead to the same edges, but for the free jumps by months and years, which go
by the start alone. -/
theorem after?_mirror (h : later.IsMirror earlier) (set : SourceSet)
    (hslides : later.pin = .free → later.unit ≠ some .month ∧ later.unit ≠ some .year) :
    e.after? set (.shift later) = e.after? set (.shift earlier) := by
  by_cases hpin : later.pin = .both
  · rw [after?_of_bothPinned hpin, after?_of_bothPinned (h.pin ▸ hpin)]
  · -- One arrow adds its seconds and the other takes away the opposite.
    ext moved
    rw [after?_eq_some_iff_of_oneWay set (.inl h.forward) hpin,
      after?_eq_some_iff_of_oneWay set (.inr h.backward) (h.pin ▸ hpin), h.forward, h.backward]
    show e.travel later (e.amountOf later) true = _ ↔
      e.travel earlier (e.amountOf earlier) false = _
    rw [travel_mirror h hslides]

/-- Jumps one way and the other way do not meet: the one ends where the period of the start
edge begins, and the other begins after it. -/
theorem stop_lt_start_of_jumps {p : Period} {set : SourceSet} {moved moved' : Edges}
    (hlater : later.IsJump p true) (hearlier : earlier.IsJump p false)
    (hmoved : e.after? set (.shift later) = some moved)
    (hmoved' : e.after? set (.shift earlier) = some moved') : moved'.stop < moved.start := by
  obtain ⟨hstart, -⟩ := (after?_eq_some_iff_of_isJump hlater set).mp hmoved
  obtain ⟨-, hstop⟩ := (after?_eq_some_iff_of_isJump hearlier set).mp hmoved'
  refine hstop.lt hstart ?_
  have hleast := hlater.one_le_wholeUnits
  unfold Instant.periodAway
  simp only [Bool.false_eq_true, if_false, if_true]
  omega

/-- A move later by a number and a move earlier by the opposite number are for lengths of the
same size, and skipped alike. They lead to the same edges or both out of range, unless they are
jumps to calendar periods.

Of these each goes the way of its arrow, by the whole part of its own length and at least by
one period. So the one with a negative number goes by just one period, and they do not lead to
the same edges: the earlier ones end before the later ones begin. -/
theorem mirrored_moves (e : Edges) (set : SourceSet) (later earlier : Shift)
    (h : later.IsMirror earlier) :
    later.length = -earlier.length ∧ later.skipReason? = earlier.skipReason? ∧
    ((later.pin = .free → later.unit ≠ some .month ∧ later.unit ≠ some .year) →
      e.after? set (.shift later) = e.after? set (.shift earlier)) ∧
    ∀ p : Period, later.IsJump p true → earlier.IsJump p false →
      let n := wholeUnits later.length
      let m := wholeUnits earlier.length
      let here := p.number e.start.date
      1 ≤ n ∧ 1 ≤ m ∧ (if earlier.length.isNegative then m else n) = 1 ∧
      (∀ moved, e.after? set (.shift later) = some moved ↔
        p.IsStart (here + n) moved.start ∧ p.IsStart (here + n + n) moved.stop) ∧
      (∀ moved, e.after? set (.shift earlier) = some moved ↔
        p.IsStart (here - m) moved.start ∧ p.IsStart here moved.stop) ∧
      ∀ moved moved', e.after? set (.shift later) = some moved →
        e.after? set (.shift earlier) = some moved' → moved'.stop < moved.start := by
  refine ⟨h.length_eq, h.skipReason?_eq, after?_mirror h set, ?_⟩
  intro p hlater hearlier n m here
  refine ⟨hlater.one_le_wholeUnits, hearlier.one_le_wholeUnits, ?_, fun moved =>
    after?_eq_some_iff_of_isJump hlater set, fun moved => ?_, fun moved moved' =>
    stop_lt_start_of_jumps hlater hearlier⟩
  · -- Of two opposite lengths that are numbers just one has the sign.
    split
    case isTrue hnegative => exact wholeUnits_of_isNegative hnegative
    case isFalse hpositive =>
      obtain ⟨word, hword⟩ := hearlier.typed
      refine wholeUnits_of_isNegative ?_
      rw [h.length_eq, Binary64.isNegative_neg (Shift.length_ne_nan_of_parse? hword),
        Bool.eq_false_iff.mpr hpositive]
      rfl
  · rw [after?_eq_some_iff_of_isJump hearlier set]
    show _ ∧ p.IsStart (here + -m + m) moved.stop ↔ _
    rw [Int.neg_add_cancel_right]
    rfl

/-- With the start held, the stop goes two months back, as months are measured from the start.
As jumps, three months earlier and minus three months later, the two part. -/
theorem mirrored_moves_of_months :
    let e := Session.sample.config.window.edges
    let set := Session.sample.sources
    let move (word : String) (direction : Direction) (magnitude : Binary64) (pin : Pin) : Shift :=
      { word, direction, intensity := 1, magnitude := some magnitude, unit := some .month, pin,
        stopAnchored := false }
    let later := move "|>-2m" .forward (-2) .start
    let earlier := move "|<2m" .backward 2 .start
    let forward := move ">-3m" .forward (-3) .free
    let backward := move "<3m" .backward 3 .free
    Line.parse "|>-2m" = .command { times := [.shift later] } ∧
      Line.parse "|<2m" = .command { times := [.shift earlier] } ∧
      later.IsMirror earlier ∧ e.after? set (.shift later) = e.after? set (.shift earlier) ∧
      (∃ moved, e.after? set (.shift later) = some moved ∧
        moved.stop.millis = e.stop.millis - 60 * 86400000) ∧
      forward.IsMirror backward ∧ forward.IsJump .month true ∧ backward.IsJump .month false ∧
      wholeUnits forward.length = 1 ∧ wholeUnits backward.length = 3 := by
  intro e set move later earlier forward backward
  have hmirror : later.IsMirror earlier := ⟨rfl, rfl, ⟨2, rfl, by decide +kernel⟩, rfl, rfl, rfl⟩
  have hjumps : forward.IsMirror backward :=
    ⟨rfl, rfl, ⟨3, rfl, by decide +kernel⟩, rfl, rfl, rfl⟩
  have hforward : forward.IsJump .month true :=
    ⟨⟨['>', '-', '3', 'm'], by decide +kernel⟩, rfl, rfl, rfl⟩
  have hbackward : backward.IsJump .month false :=
    ⟨⟨['<', '3', 'm'], by decide +kernel⟩, rfl, rfl, rfl⟩
  obtain ⟨-, -, hsame, -⟩ := mirrored_moves e set later earlier hmirror
  obtain ⟨-, -, -, hjump⟩ := mirrored_moves e set forward backward hjumps
  obtain ⟨-, -, hone, -⟩ := hjump .month hforward hbackward
  have hsign : backward.length.isNegative = false := by decide +kernel
  -- Of the two lengths it is the forward one that is negative.
  rw [hsign] at hone
  let moved : Edges := ⟨e.start, ⟨1364896800000, by decide, by decide⟩⟩
  refine ⟨by decide +kernel, by decide +kernel, hmirror, hsame nofun, ⟨moved, ?_, ?_⟩, hjumps,
    hforward, hbackward, hone, ?_⟩
  · decide +kernel
  · decide
  · decide +kernel

/-- A jump by minus one month later goes to the month after, and a jump by one month earlier
to the month before. -/
theorem mirrored_moves_part :
    let e := Session.sample.config.window.edges
    let set := Session.sample.sources
    let later : Shift := { word := ">-1m", direction := .forward, intensity := 1,
                           magnitude := some (-1), unit := some .month, pin := .free,
                           stopAnchored := false }
    let earlier : Shift := { later with word := "<1m", direction := .backward, magnitude := some 1 }
    Line.parse ">-1m" = .command { times := [.shift later] } ∧
      Line.parse "<1m" = .command { times := [.shift earlier] } ∧
      later.IsMirror earlier ∧
      ∃ moved moved', e.after? set (.shift later) = some moved ∧
        e.after? set (.shift earlier) = some moved' ∧ moved ≠ moved' ∧
        moved.start.date = ⟨2013, 7, 1⟩ ∧ moved.stop.date = ⟨2013, 8, 1⟩ ∧
        moved'.start.date = ⟨2013, 5, 1⟩ ∧ moved'.stop.date = ⟨2013, 6, 1⟩ := by
  intro e set later earlier
  let moved : Edges :=
    ⟨⟨1372636800000, by decide, by decide⟩, ⟨1375315200000, by decide, by decide⟩⟩
  let moved' : Edges :=
    ⟨⟨1367366400000, by decide, by decide⟩, ⟨1370044800000, by decide, by decide⟩⟩
  have hmirror : later.IsMirror earlier := ⟨rfl, rfl, ⟨1, rfl, by decide +kernel⟩, rfl, rfl, rfl⟩
  exact ⟨by decide +kernel, by decide +kernel, hmirror, moved, moved', by decide +kernel,
    by decide +kernel, by decide, by decide, by decide, by decide, by decide⟩

end Edges

end SeriesPlot
