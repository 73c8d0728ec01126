import SeriesPlot.Proofs.Calendar.Offset
import SeriesPlot.Proofs.Session.Run
import SeriesPlot.Proofs.Update.Edges

/-!
# `SeriesPlot.Proofs.Update.Pins`: edges that bars hold in place

A bar at one end of a relative change pins the edge at that end. Without arrows and with
arrows one way the pinned edge stays where it is (`Edges.pinned_of_to`). With arrows both
ways the bar is not looked at (`Edges.shift_eq_of_isBothWays`): both edges move by one number
of milliseconds in opposite directions (`Edges.movedApart_of_spread`), so the pinned edge
stays only if the other one does too (`Edges.pinned_edge_stays_iff`). Bars at both ends skip
every change.

There is a lemma for each way to move: `Edges.pinned_of_resize` for a change of the width,
`Edges.pinned_of_slide` for a slide, and `Edges.pinned_of_travel` for both. All of them come to two
edges of which one is the old one (`Edges.pinned_start`, `Edges.pinned_stop`). `Edges.MovedApartBy`
is what is left of a spread once its seconds are rounded, for contractions as well.
-/

set_option autoImplicit false

namespace SeriesPlot

/-- Arrows both ways. -/
def Direction.isBothWays : Direction → Bool
  | expand | contract => true
  | resize | forward | backward => false

namespace Edges

variable {e moved : Edges} {s : Shift}

/-- A pinned edge is where it was. -/
def Pinned (pin : Pin) (e moved : Edges) : Prop :=
  (pin = .start → moved.start = e.start) ∧ (pin = .stop → moved.stop = e.stop)

/-- Two edges are moved to iff both are representable. -/
theorem ofEdges?_eq_to_iff {start stop : Option Instant} :
    Move.ofEdges? start stop = .to moved ↔ start = some moved.start ∧ stop = some moved.stop := by
  unfold Move.ofEdges?
  split
  · obtain ⟨start, stop⟩ := moved
    simp
  · constructor
    · exact nofun
    · rintro ⟨rfl, rfl⟩
      simp_all

/-! ### No arrows, or arrows one way -/

/-- A move that is given the old start keeps it. -/
theorem pinned_start {stop : Option Instant}
    (h : Move.ofEdges? (some e.start) stop = .to moved) : Pinned .start e moved :=
  ⟨fun _ => (Option.some.inj (ofEdges?_eq_to_iff.mp h).1).symm, nofun⟩

/-- A move that is given the old stop keeps it. -/
theorem pinned_stop {start : Option Instant}
    (h : Move.ofEdges? start (some e.stop) = .to moved) : Pinned .stop e moved :=
  ⟨nofun, fun _ => (Option.some.inj (ofEdges?_eq_to_iff.mp h).2).symm⟩

/-- A change of the width keeps the edge that is held. -/
theorem pinned_of_resize {pin : Pin} {amount : Binary64} (h : e.resize pin amount = .to moved) :
    Pinned pin e moved := by
  cases pin with
  | free => exact ⟨nofun, nofun⟩
  | both => exact ⟨nofun, nofun⟩
  | start => exact pinned_start h
  | stop => exact pinned_stop h

/-- A slide keeps the edge that is held. -/
theorem pinned_of_slide {pin : Pin} {amount : Binary64} (h : e.slide pin amount = .to moved) :
    Pinned pin e moved := by
  cases pin with
  | free => exact ⟨nofun, nofun⟩
  | both => exact ⟨nofun, nofun⟩
  | start => exact pinned_start h
  | stop => exact pinned_stop h

/-- The jumps to calendar periods are free moves. -/
theorem pinned_of_travel {amount : Binary64} {later : Bool}
    (h : e.travel s amount later = .to moved) : Pinned s.pin e moved := by
  unfold travel at h
  split at h
  case h_1 hpin _ => exact hpin ▸ ⟨nofun, nofun⟩
  case h_2 hpin _ => exact hpin ▸ ⟨nofun, nofun⟩
  case h_3 => exact pinned_of_slide h

/-- A shift one way keeps the edge that is held, whatever its unit. -/
theorem pinned_of_to (hdirection : s.direction.isBothWays = false) (h : e.shift s = .to moved) :
    Pinned s.pin e moved := by
  unfold shift at h
  split at h
  · cases h
  · cases hd : s.direction with
    | resize => exact pinned_of_resize (by simpa only [hd] using h)
    | forward => exact pinned_of_travel (by simpa only [hd] using h)
    | backward => exact pinned_of_travel (by simpa only [hd] using h)
    | expand => simp [hd, Direction.isBothWays] at hdirection
    | contract => simp [hd, Direction.isBothWays] at hdirection

/-- With arrows one way the edges travel, or one of them would leave the range. -/
theorem after?_eq_some_iff_of_oneWay (set : SourceSet)
    (hdirection : s.direction = .forward ∨ s.direction = .backward) (hpin : s.pin ≠ .both) :
    e.after? set (.shift s) = some moved ↔
      e.travel s (e.amountOf s) (s.direction == .forward) = .to moved := by
  have hshift : e.shift s = e.travel s (e.amountOf s) (s.direction == .forward) := by
    rw [shift, if_neg hpin]
    rcases hdirection with hd | hd
    · rw [hd]
      rfl
    · rw [hd]
      rfl
  have hstep : e.step set (.shift s) = e.travel s (e.amountOf s) (s.direction == .forward) := hshift
  rw [← hstep]
  exact after?_eq_some_iff fun notice => hstep ▸ travel_ne_skipped e s _ _ notice

/-! ### Arrows both ways -/

/-- Arrows both ways spread the edges without a look at which one is held. -/
theorem shift_eq_spread (hdirection : s.direction.isBothWays = true) (hpin : s.pin ≠ .both) :
    e.shift s = e.spread s (s.direction == .expand) := by
  unfold shift
  rw [if_neg hpin]
  cases hd : s.direction with
  | resize => simp [hd, Direction.isBothWays] at hdirection
  | forward => simp [hd, Direction.isBothWays] at hdirection
  | backward => simp [hd, Direction.isBothWays] at hdirection
  | expand => rfl
  | contract => rfl

/-- A bar at one end of an expansion or contraction has no effect. -/
theorem shift_eq_of_isBothWays (hdirection : s.direction.isBothWays = true)
    (hpin : s.pin ≠ .both) : e.shift s = e.shift { s with pin := .free } := by
  have hfree : e.shift { s with pin := .free } = e.spread s (s.direction == .expand) :=
    shift_eq_spread (s := { s with pin := .free }) hdirection (by simp)
  rw [hfree, shift_eq_spread hdirection hpin]

/-- The edges have moved by one number of milliseconds, outwards if it is positive. -/
def MovedApart (e moved : Edges) : Prop :=
  ∃ n : Int, moved.start.millis = e.start.millis - n ∧ moved.stop.millis = e.stop.millis + n

/-- The edges have moved by this number of milliseconds, outwards if it is positive. -/
def MovedApartBy (d : Int) (e moved : Edges) : Prop :=
  moved.start.millis = e.start.millis - d ∧ moved.stop.millis = e.stop.millis + d

/-- Edges moved outwards by one length of time are reached iff it rounds to a whole number of
milliseconds that keeps both of them representable. -/
theorem ofEdges?_outwards_eq_to_iff {seconds : Binary64} :
    Move.ofEdges? (e.start.offset? (-seconds)) (e.stop.offset? seconds) = .to moved ↔
      ∃ d, wholeMillis? seconds = some d ∧ e.MovedApartBy d moved := by
  rw [ofEdges?_eq_to_iff, Instant.offset?_eq_some_iff, Instant.offset?_eq_some_iff,
    wholeMillis?_neg]
  constructor
  · rintro ⟨⟨m, hm, hstart⟩, d, hd, hstop⟩
    rw [hd] at hm
    obtain rfl : -d = m := Option.some.inj hm
    exact ⟨d, hd, hstart, hstop⟩
  · rintro ⟨d, hd, hstart, hstop⟩
    exact ⟨⟨-d, by rw [hd]; rfl, hstart⟩, d, hd, hstop⟩

/-- A move outwards by a length of time leaves neither edge or both. -/
theorem movedApart_of_outwards {distance : Binary64}
    (h : Move.ofEdges? (e.start.offset? (-distance)) (e.stop.offset? distance) = .to moved) :
    e.MovedApart moved := by
  obtain ⟨d, -, happart⟩ := ofEdges?_outwards_eq_to_iff.mp h
  exact ⟨d, happart⟩

/-- A spread leaves neither edge or both, so a held edge moves if the other one does. -/
theorem movedApart_of_spread {outwards : Bool} (h : e.spread s outwards = .to moved) :
    e.MovedApart moved := by
  unfold spread at h
  split at h
  · cases h
  · dsimp only at h
    -- By units or by a ratio, the distance is the same at both edges.
    split at h
    · exact movedApart_of_outwards h
    · split at h
      · cases h
      · exact movedApart_of_outwards h

/-- With arrows both ways, neither edge stays without the other. -/
theorem stays_iff_of_isBothWays (hdirection : s.direction.isBothWays = true)
    (h : e.shift s = .to moved) :
    (moved.start = e.start ↔ moved = e) ∧ (moved.stop = e.stop ↔ moved = e) := by
  have hpin : s.pin ≠ .both := by
    intro hboth
    rw [shift, if_pos hboth] at h
    cases h
  rw [shift_eq_spread hdirection hpin] at h
  obtain ⟨n, hstart, hstop⟩ := movedApart_of_spread h
  -- Both edges move by one number of milliseconds, so one stays iff the number is zero.
  have heq : n = 0 → moved = e := by
    rintro rfl
    have hstart' : moved.start = e.start := Instant.eq_of_millis_eq (by omega)
    have hstop' : moved.stop = e.stop := Instant.eq_of_millis_eq (by omega)
    obtain ⟨start, stop⟩ := moved
    obtain rfl : start = e.start := hstart'
    obtain rfl : stop = e.stop := hstop'
    rfl
  refine ⟨⟨fun hsame => heq ?_, fun hsame => by rw [hsame]⟩,
    ⟨fun hsame => heq ?_, fun hsame => by rw [hsame]⟩⟩
  · rw [hsame] at hstart
    omega
  · rw [hsame] at hstop
    omega

/-! ### Any relative change -/

/-- Bars at both ends skip a relative change, and the user is told so once. A bar at one end
holds its edge in place, unless there are arrows both ways. With these the bar makes no
difference, and the edge stays only if neither edge moves. -/
theorem pinned_edge_stays_iff (e : Edges) (set : SourceSet) (s : Shift) :
    (s.pin = .both →
      e.run set [.shift s] = (some e, [.shiftSkipped s.word .bothEdgesPinned])) ∧
    (∀ moved, e.after? set (.shift s) = some moved →
      (s.pin = .start →
        (moved.start = e.start ↔ (s.direction.isBothWays = true → moved = e))) ∧
      (s.pin = .stop →
        (moved.stop = e.stop ↔ (s.direction.isBothWays = true → moved = e)))) ∧
    (s.direction.isBothWays = true → s.pin ≠ .both →
      e.shift s = e.shift { s with pin := .free }) := by
  refine ⟨fun hpin => ?_, fun moved hafter => ?_, shift_eq_of_isBothWays⟩
  · have hshift : e.shift s = .skipped (.shiftSkipped s.word .bothEdgesPinned) := by
      rw [shift, if_pos hpin]
    simp only [run, step, hshift]
  · unfold after? step at hafter
    dsimp only at hafter
    split at hafter
    case h_1 hshift =>
      obtain rfl := Option.some.inj hafter
      -- With arrows one way the held edge stays always; with both ways only if nothing moves.
      cases hdirection : s.direction.isBothWays with
      | false =>
        obtain ⟨hstart, hstop⟩ := pinned_of_to hdirection hshift
        exact ⟨fun hpin => by simp [hstart hpin], fun hpin => by simp [hstop hpin]⟩
      | true =>
        obtain ⟨hstart, hstop⟩ := stays_iff_of_isBothWays hdirection hshift
        exact ⟨fun _ => by simpa using hstart, fun _ => by simpa using hstop⟩
    case h_2 =>
      obtain rfl := Option.some.inj hafter
      simp
    case h_3 => cases hafter

/-- A move by twice three quarters of an hour with the start held in place. -/
theorem pinned_edge_stays_iff_of_repeated_arrow :
    let e := Session.sample.config.window.edges
    let s : Shift := { word := "|>>0.75h", direction := .forward, intensity := 2,
                       magnitude := some 0.75, unit := some .hour, pin := .start,
                       stopAnchored := false }
    Line.parse "|>>0.75h" = .command { times := [.shift s] } ∧ s.pin = .start ∧
      ∃ moved, e.after? Session.sample.sources (.shift s) = some moved ∧
        moved.start = e.start ∧ moved.stop.millis = e.stop.millis + 5400000 := by
  intro e s
  let moved : Edges := ⟨e.start, ⟨1370086200000, by decide, by decide⟩⟩
  have hafter : e.after? Session.sample.sources (.shift s) = some moved := by decide +kernel
  obtain ⟨-, hpinned, -⟩ := pinned_edge_stays_iff e Session.sample.sources s
  obtain ⟨hstart, -⟩ := hpinned moved hafter
  exact ⟨by decide +kernel, rfl, moved, hafter, (hstart rfl).mpr nofun, by decide⟩

/-- An expansion by an hour at either end moves the start, which the bar before it is to hold
in place. -/
theorem pinned_edge_moves :
    let c := Session.sample.config
    let s : Shift := { word := "|<>2h", direction := .expand, intensity := 1,
                       magnitude := some 2, unit := some .hour, pin := .start,
                       stopAnchored := false }
    Line.parse "|<>2h" = .command { times := [.shift s] } ∧ s.pin = .start ∧
      ∃ moved, c.window.edges.after? Session.sample.sources (.shift s) = some moved ∧
        moved.start ≠ c.window.start ∧
        moved.start.millis = c.window.start.millis - 3600000 ∧
        moved.stop.millis = c.window.stop.millis + 3600000 ∧
        (c.update Session.sample.sources { times := [.shift s] }).config.window.edges = moved := by
  intro c s
  let moved : Edges :=
    ⟨⟨1370041200000, by decide, by decide⟩, ⟨1370084400000, by decide, by decide⟩⟩
  exact ⟨by decide +kernel, rfl, moved, by decide +kernel, by decide, by decide, by decide,
    by decide +kernel⟩

end Edges

end SeriesPlot
