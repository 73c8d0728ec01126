import Mathlib.Algebra.Group.Int.Defs
import SeriesPlot.Proofs.Binary64.Rounding
import SeriesPlot.Proofs.Update.Pins
import SeriesPlot.Proofs.Update.Sequence

/-!
# `SeriesPlot.Proofs.Update.Centre`: the window around an instant

Setting the centre moves both edges to one number of milliseconds from it, which is half of
the width in seconds, rounded once for both edges (`Edges.after?_eq_some_iff_of_centre`). So
the new width is even. The three operations on the seconds are off by less than half a
millisecond in all, for widths below `2 ^ 52` of them (`exists_wholeMillis?_half`), so an even
width is kept and an odd one changes by one millisecond (`Config.recentred_width`).

For the few windows that are as wide as that, of more than a hundred thousand years, the new width
is still even. The half of an odd width is a tie, and rounding takes it away from zero unless the
operations before have moved it to the other side. `Config.recentred_width_of_third` has a window
that grows.
-/

set_option autoImplicit false

namespace SeriesPlot

/-! ### Half of the width -/

namespace Binary64

/-- Half of a whole number of milliseconds, computed in seconds, is less than half a millisecond
off. -/
theorem exists_half_in_millis {w : Nat} (hpos : 1 ≤ w) (hlimit : w < 2 ^ 52) :
    ∃ m, ofInt w / 1000 / 2 * 1000 = finite false m ∧
      w * Magnitude.unitsPerOne < 2 * m.units + Magnitude.unitsPerOne ∧
      2 * m.units < w * Magnitude.unitsPerOne + Magnitude.unitsPerOne := by
  have hunit := Magnitude.two_pow_le_unitsPerOne (by decide : 70 ≤ 1074)
  obtain ⟨width, hwidth, hwidthUnits⟩ := exists_ofInt_eq_whole hpos
    (Nat.lt_of_lt_of_le hlimit (by decide : 2 ^ 52 ≤ 2 ^ 53))
  have hleast : Magnitude.unitsPerOne ≤ width.units := by
    rw [hwidthUnits]
    exact Nat.le_mul_of_pos_left _ hpos
  have hmost : width.units + Magnitude.unitsPerOne ≤ 2 ^ 52 * Magnitude.unitsPerOne := by
    have hsucc : w + 1 ≤ 2 ^ 52 := hlimit
    rw [hwidthUnits, ← Nat.add_one_mul w]
    exact Nat.mul_le_mul_right Magnitude.unitsPerOne hsucc
  rw [hwidth, ← hwidthUnits]
  -- The number of units in one is large and not to be evaluated, so it is only named.
  have hmoderate : Magnitude.unitsPerOne * 1000 ≤ 2 ^ 64 * width.units ∧
      width.units < 2 ^ 64 * (Magnitude.unitsPerOne * 1000) := by
    generalize Magnitude.unitsPerOne = u at *
    omega
  -- The errors of the quotient and of the product add up, and halving has none.
  obtain ⟨seconds, hseconds, habove, hbelow⟩ :=
    exists_div_ofNat (by decide : 1 ≤ 1000) (by decide) hmoderate.1 hmoderate.2
  have hfull : 2 ^ 53 ≤ seconds.units := by
    generalize Magnitude.unitsPerOne = u at *
    omega
  obtain ⟨half, hhalf, hhalfUnits⟩ := exists_half hfull
  have hmoderate' : Magnitude.unitsPerOne ≤ 2 ^ 64 * (half.units * 1000) ∧
      half.units * 1000 < 2 ^ 64 * Magnitude.unitsPerOne := by
    generalize Magnitude.unitsPerOne = u at *
    omega
  obtain ⟨millis, hmillis, habove', hbelow'⟩ :=
    exists_mul_ofNat (by decide : 1 ≤ 1000) (by decide) hmoderate'.1 hmoderate'.2
  refine ⟨millis, by rw [hseconds, hhalf, hmillis], ?_⟩
  generalize Magnitude.unitsPerOne = u at *
  omega

end Binary64

/-- Half of a width is a whole number of milliseconds next to the exact half, or the exact half
itself. -/
theorem exists_wholeMillis?_half {w : Nat} (hpos : 1 ≤ w) (hlimit : w < 2 ^ 52) :
    ∃ n : Nat, wholeMillis? (Binary64.ofInt w / 1000 / 2) = some (n : Int) ∧
      w ≤ 2 * n + 1 ∧ 2 * n ≤ w + 1 := by
  obtain ⟨millis, hmillis, hlow, hhigh⟩ := Binary64.exists_half_in_millis hpos hlimit
  obtain ⟨hleast, hmost⟩ := Binary64.roundMagnitude_bounds hlow hhigh
  refine ⟨Binary64.roundMagnitude millis, ?_, hleast, hmost⟩
  refine wholeMillis?_of_round? ?_ (by unfold millisLimit; omega)
  rw [hmillis, Binary64.round?_finite_false]

namespace Edges

variable {e moved : Edges} {t : Instant}

/-- Setting the centre moves both edges to the same distance from it. -/
theorem after?_eq_some_iff_of_centre (set : SourceSet) :
    e.after? set (.centre t) = some moved ↔
      ∃ n, wholeMillis? (e.seconds / 2) = some n ∧
        moved.start.millis = t.millis - n ∧ moved.stop.millis = t.millis + n := by
  have hstep : e.step set (.centre t) =
      .ofEdges? (t.offset? (-e.seconds / 2)) (t.offset? (e.seconds / 2)) := rfl
  rw [after?_eq_some_iff fun notice => hstep ▸ ofEdges?_ne_skipped _ _ notice, hstep]
  rw [Binary64.neg_div]
  -- Both edges start from the centre.
  exact ofEdges?_outwards_eq_to_iff (e := ⟨t, t⟩)

end Edges

namespace Config

/-- A command that only sets the centre, and that is accepted, leads to a window with exactly
this centre. Its edges are half of the old width away from it, rounded to milliseconds, so the
new width is even, and an odd one is not kept. Below `2 ^ 52` milliseconds an even width is
kept, and an odd one changes by just one millisecond. The time labels are due if their mode has
changed or if they are derived and the width has. -/
theorem recentred_width (c : Config) (set : SourceSet) {command : Command} {t : Instant}
    (htimes : command.times = [.centre t])
    (haccepted : .windowRejected ∉ (c.update set command).notices) :
    let after := (c.update set command).config
    let width := c.window.widthMillis
    (∃ n, wholeMillis? (c.window.seconds / 2) = some n ∧
      after.window.start.millis = t.millis - n ∧ after.window.stop.millis = t.millis + n ∧
      after.window.widthMillis = 2 * n) ∧
    (width % 2 = 1 → after.window.widthMillis ≠ width) ∧
    (width < 2 ^ 52 →
      (width % 2 = 0 → after.window.widthMillis = width) ∧
      (width % 2 = 1 →
        after.window.widthMillis = width - 1 ∨ after.window.widthMillis = width + 1)) ∧
    after.ticksDue = (c.ticks != after.ticks ||
      (after.ticks == .auto && width != after.window.widthMillis)) := by
  intro after width
  obtain ⟨v, htarget⟩ := (c.windowRejected_not_mem_update_iff set command).mp haccepted
  have hwindow : after.window = v := c.window_update_of_target? set htarget
  rw [htimes, Window.target?_singleton, ← hwindow] at htarget
  obtain ⟨n, hn, hstart, hstop⟩ := (Edges.after?_eq_some_iff_of_centre set).mp htarget
  have heven : after.window.widthMillis = 2 * n := by
    show after.window.edges.stop.millis - after.window.edges.start.millis = 2 * n
    omega
  refine ⟨⟨n, hn, hstart, hstop, heven⟩, by omega, fun hlimit => ?_, c.ticksDue_update set command⟩
  -- The distance is half of the width up to a half, so twice the distance is off by one at most,
  -- and not at all if the width is even.
  obtain ⟨w, hw⟩ := Int.eq_ofNat_of_zero_le (Int.le_of_lt c.window.widthMillis_pos)
  have hpos := c.window.widthMillis_pos
  obtain ⟨m, hm, hleast, hmost⟩ := exists_wholeMillis?_half (by omega : 1 ≤ w) (by omega)
  have hsame : n = m := by
    rw [← hw] at hm
    exact Option.some.inj (hn.symm.trans hm)
  omega

/-- Ten hours are kept, to the millisecond, around the start of the second of June. -/
theorem recentred_width_of_hours :
    let c := Session.sample.config
    let set := Session.sample.sources
    let command : Command := { times := [.centre ⟨1370131200000, by decide, by decide⟩] }
    let after := (c.update set command).config
    Line.parse "c2013-06-02" = .command command ∧
      .windowRejected ∉ (c.update set command).notices ∧
      after.window.widthMillis = 36000000 ∧ after.window.widthMillis = c.window.widthMillis ∧
      after.ticksDue = false := by
  intro c set command after
  have haccepted : .windowRejected ∉ (c.update set command).notices := by decide +kernel
  obtain ⟨-, -, hkept, hdue⟩ := recentred_width c set rfl haccepted
  have hwidth : after.window.widthMillis = c.window.widthMillis :=
    (hkept (by decide)).1 (by decide)
  refine ⟨by decide +kernel, haccepted, by rw [hwidth]; decide, hwidth, ?_⟩
  rw [hdue, hwidth]
  decide +kernel

/-- A third of ten hours, which is rounded to an odd number of milliseconds, is one millisecond
more after its centre has been set, and the time labels are due. -/
theorem recentred_width_of_third :
    let c := Session.sample.config
    let set := Session.sample.sources
    let third : Command :=
      { times := [.shift { word := "|0.3333333", direction := .resize, intensity := 1,
                           magnitude := some 0.3333333, unit := none, pin := .start,
                           stopAnchored := false }] }
    let recentring : Command := { times := [.centre ⟨1370062800000, by decide, by decide⟩] }
    let before := (c.update set third).config
    let after := (before.update set recentring).config
    Line.parse "|0.3333333" = .command third ∧
      Line.parse "c2013-06-01T05" = .command recentring ∧
      .windowRejected ∉ (before.update set recentring).notices ∧
      before.window.widthMillis = 11999999 ∧ after.window.widthMillis = 12000000 ∧
      after.ticks = .auto ∧ before.ticks = .auto ∧ after.ticksDue = true := by
  decide +kernel

end Config

end SeriesPlot
