import SeriesPlot.Proofs.Update.Pins
import SeriesPlot.Proofs.Update.Sequence

/-!
# `SeriesPlot.Proofs.Update.Slides`: moves that the opposite arrow takes back

A free move with arrows one way that is not a jump to a calendar period is a slide. Both of
its edges move by one number of milliseconds (`Edges.after?_eq_some_iff_of_isSlide`), which is
measured by a fixed unit or by the width, so it is the same from wherever a window of that
width begins. Rounding treats a number and its opposite alike (`wholeMillis?_neg`). So the
slide in the other direction moves the edges back, and as they have been there before, they are
representable (`Config.shift_undone`).

* `Edges.amountOf_eq_of_isSlide`: only the width of the edges has a part in how far a slide goes.
  Months and years are measured from an edge, which is why they are left out.
* `Edges.slideMillis?_opposite`: turned around, a slide goes as far in the other direction.
* `Edges.after?_opposite`: a slide that has been made can be taken back.
-/

set_option autoImplicit false

namespace SeriesPlot

/-- The direction of the opposite arrows. -/
def Direction.opposite : Direction → Direction
  | resize => resize
  | forward => backward
  | backward => forward
  | expand => contract
  | contract => expand

namespace Shift

/-- A free move that keeps the width: with arrows one way, in weeks, days, hours or widths. -/
structure IsSlide (s : Shift) : Prop where
  pin : s.pin = .free
  oneWay : s.direction = .forward ∨ s.direction = .backward
  notMonth : s.unit ≠ some .month
  notYear : s.unit ≠ some .year

/-- The same change with the arrows turned around. The word it is typed as does not matter. -/
structure IsOpposite (s back : Shift) : Prop where
  direction : back.direction = s.direction.opposite
  intensity : back.intensity = s.intensity
  magnitude : back.magnitude = s.magnitude
  unit : back.unit = s.unit
  pin : back.pin = s.pin

variable {s back : Shift}

/-- Opposite shifts have one length; the arrows alone differ. -/
theorem IsOpposite.length_eq (h : s.IsOpposite back) : back.length = s.length := by
  rw [length, length, h.magnitude, h.intensity]

/-- The opposite of a slide is a slide. -/
theorem IsOpposite.isSlide (h : s.IsOpposite back) (hslide : s.IsSlide) : back.IsSlide where
  pin := h.pin.trans hslide.pin
  oneWay := by
    rw [h.direction]
    rcases hslide.oneWay with hd | hd
    · exact .inr (by rw [hd]; rfl)
    · exact .inl (by rw [hd]; rfl)
  notMonth := h.unit ▸ hslide.notMonth
  notYear := h.unit ▸ hslide.notYear

end Shift

namespace Edges

variable {e e' moved : Edges} {s back : Shift}

/-- Both edges have moved by one number of milliseconds, to later times if it is positive. -/
def MovedBy (n : Int) (e moved : Edges) : Prop :=
  moved.start.millis = e.start.millis + n ∧ moved.stop.millis = e.stop.millis + n

/-- The number of milliseconds by which a slide moves the edges; none if it is too large. -/
def slideMillis? (e : Edges) (s : Shift) : Option Int :=
  wholeMillis? (if s.direction == .forward then e.amountOf s else -e.amountOf s)

/-- A slide of both edges leads somewhere iff its seconds round to milliseconds by which both can
move. -/
theorem slide_free_eq_to_iff {amount : Binary64} :
    e.slide .free amount = .to moved ↔
      ∃ n, wholeMillis? amount = some n ∧ e.MovedBy n moved := by
  unfold slide
  rw [ofEdges?_eq_to_iff, Instant.offset?_eq_some_iff, Instant.offset?_eq_some_iff]
  constructor
  · rintro ⟨⟨n, hn, hstart⟩, m, hm, hstop⟩
    obtain rfl : n = m := Option.some.inj (hn.symm.trans hm)
    exact ⟨n, hn, hstart, hstop⟩
  · rintro ⟨n, hn, hstart, hstop⟩
    exact ⟨⟨n, hn, hstart⟩, n, hn, hstop⟩

/-- A slide by the arrows moves both edges by the seconds or by their opposite. -/
theorem travel_eq_slide (h : s.IsSlide) (amount : Binary64) (later : Bool) :
    e.travel s amount later = e.slide .free (if later then amount else -amount) := by
  unfold travel
  split
  · exact absurd ‹_› h.notMonth
  · exact absurd ‹_› h.notYear
  · rw [h.pin]

/-- A slide is never skipped. It moves the edges, or one of them would leave the range. -/
theorem after?_eq_some_iff_of_isSlide (h : s.IsSlide) (set : SourceSet) :
    e.after? set (.shift s) = some moved ↔
      ∃ n, e.slideMillis? s = some n ∧ e.MovedBy n moved := by
  have hpin : s.pin ≠ .both := by simp [h.pin]
  rw [after?_eq_some_iff_of_oneWay set h.oneWay hpin, travel_eq_slide h, slide_free_eq_to_iff]
  rfl

/-- Only the width of the edges has a part in how far a slide goes. -/
theorem amountOf_eq_of_isSlide (h : s.IsSlide) (hopposite : s.IsOpposite back)
    (hwidth : e'.stop.millis - e'.start.millis = e.stop.millis - e.start.millis) :
    e'.amountOf back = e.amountOf s := by
  unfold amountOf
  rw [hopposite.unit, hopposite.length_eq]
  match hunit : s.unit with
  | none => rw [seconds, seconds, secondsBetween, secondsBetween, hwidth]
  | some .year => exact absurd hunit h.notYear
  | some .month => exact absurd hunit h.notMonth
  | some .week => rfl
  | some .day => rfl
  | some .hour => rfl

/-- Turned around, a slide goes as far in the other direction. -/
theorem slideMillis?_opposite (h : s.IsSlide) (hopposite : s.IsOpposite back)
    (hwidth : e'.stop.millis - e'.start.millis = e.stop.millis - e.start.millis) :
    e'.slideMillis? back = (e.slideMillis? s).map fun n => -n := by
  unfold slideMillis?
  rw [amountOf_eq_of_isSlide h hopposite hwidth, hopposite.direction]
  rcases h.oneWay with hd | hd
  · rw [hd]
    exact wholeMillis?_neg (e.amountOf s)
  · rw [hd]
    show wholeMillis? (e.amountOf s) = (wholeMillis? (-e.amountOf s)).map fun n => -n
    rw [wholeMillis?_neg]
    cases wholeMillis? (e.amountOf s) with
    | none => rfl
    | some n => exact congrArg some (Int.neg_neg n).symm

/-- A slide that has been made can be taken back. -/
theorem after?_opposite (h : s.IsSlide) (hopposite : s.IsOpposite back) {set : SourceSet}
    (hafter : e.after? set (.shift s) = some moved) :
    moved.after? set (.shift back) = some e := by
  obtain ⟨n, hn, hstart, hstop⟩ := (after?_eq_some_iff_of_isSlide h set).mp hafter
  have hwidth : moved.stop.millis - moved.start.millis = e.stop.millis - e.start.millis := by
    omega
  refine (after?_eq_some_iff_of_isSlide (hopposite.isSlide h) set).mpr ⟨-n, ?_, ?_, ?_⟩
  · rw [slideMillis?_opposite h hopposite hwidth, hn]
    rfl
  · omega
  · omega

end Edges

namespace Config

/-- A move in weeks, days, hours or widths that is accepted moves both edges by one number of
milliseconds. So the width stays, and the time labels are only due if their mode has changed.
From every state with that window the opposite arrow is accepted, whatever else its command
asks for, and it brings the window back. -/
theorem shift_undone (c : Config) (set : SourceSet) {command : Command} {s : Shift}
    (hslide : s.IsSlide) (htimes : command.times = [.shift s])
    (haccepted : .windowRejected ∉ (c.update set command).notices) :
    let after := (c.update set command).config
    (∃ n, c.window.edges.MovedBy n after.window.edges) ∧
    after.window.widthMillis = c.window.widthMillis ∧
    after.ticksDue = (c.ticks != after.ticks) ∧
    ∀ (later : Config) (undoing : Command) (back : Shift), later.window = after.window →
      s.IsOpposite back → undoing.times = [.shift back] →
        .windowRejected ∉ (later.update set undoing).notices ∧
          (later.update set undoing).config.window = c.window := by
  intro after
  obtain ⟨v, htarget⟩ := (c.windowRejected_not_mem_update_iff set command).mp haccepted
  have hwindow : after.window = v := c.window_update_of_target? set htarget
  rw [htimes, Window.target?_singleton, ← hwindow] at htarget
  obtain ⟨n, -, hstart, hstop⟩ := (Edges.after?_eq_some_iff_of_isSlide hslide set).mp htarget
  have hwidth : after.window.widthMillis = c.window.widthMillis := by
    show after.window.edges.stop.millis - after.window.edges.start.millis =
      c.window.edges.stop.millis - c.window.edges.start.millis
    omega
  refine ⟨⟨n, hstart, hstop⟩, hwidth, ?_, fun later undoing back hlater hopposite hundoing => ?_⟩
  · show (c.update set command).config.ticksDue = _
    rw [ticksDue_update, ticksChanged]
    simp [hwidth, after]
  · -- The opposite move is measured by the same width, and it is as long.
    have hback : later.window.target? set undoing.times = some c.window := by
      rw [hundoing, Window.target?_singleton, hlater]
      exact Edges.after?_opposite hslide hopposite htarget
    exact ⟨(later.windowRejected_not_mem_update_iff set undoing).mpr ⟨_, hback⟩,
      later.window_update_of_target? set hback⟩

/-- A move by a small part of the width, 885.6 milliseconds, of which the last is rounded up. -/
theorem shift_undone_of_rounded_move :
    let c := Session.sample.config
    let set := Session.sample.sources
    let s : Shift := { word := ">>0.0000123", direction := .forward, intensity := 2,
                       magnitude := some 0.0000123, unit := none, pin := .free,
                       stopAnchored := false }
    let back : Shift := { s with word := "<<0.0000123", direction := .backward }
    let after := (c.update set { times := [.shift s] }).config
    let undoing : Command := { times := [.shift back] }
    Line.parse ">>0.0000123" = .command { times := [.shift s] } ∧
      Line.parse "<<0.0000123" = .command undoing ∧
      s.IsSlide ∧ s.IsOpposite back ∧
      .windowRejected ∉ (c.update set { times := [.shift s] }).notices ∧
      after.window.start.millis = c.window.start.millis + 886 ∧
      after.window.widthMillis = c.window.widthMillis ∧
      .windowRejected ∉ (after.update set undoing).notices ∧
      (after.update set undoing).config.window = c.window := by
  intro c set s back after undoing
  have hslide : s.IsSlide := ⟨rfl, .inl rfl, nofun, nofun⟩
  have hopposite : s.IsOpposite back := ⟨rfl, rfl, rfl, rfl, rfl⟩
  have haccepted : .windowRejected ∉ (c.update set { times := [.shift s] }).notices := by
    decide +kernel
  obtain ⟨-, hwidth, -, hback⟩ := shift_undone c set hslide rfl haccepted
  obtain ⟨hagain, hrestored⟩ := hback after undoing back rfl hopposite rfl
  exact ⟨by decide +kernel, by decide +kernel, hslide, hopposite, haccepted, by decide +kernel,
    hwidth, hagain, hrestored⟩

end Config

end SeriesPlot
