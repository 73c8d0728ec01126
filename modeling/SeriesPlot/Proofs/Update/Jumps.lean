import Mathlib.Data.List.Chain
import SeriesPlot.Proofs.Calendar.Period
import SeriesPlot.Proofs.Command.Arrows
import SeriesPlot.Proofs.Update.Pins
import SeriesPlot.Proofs.Update.Sequence

/-!
# `SeriesPlot.Proofs.Update.Jumps`: windows of whole months and years

A free move by months or years takes the window to whole periods: as many as the move counts,
from the period so many after or before the one of the start edge
(`Edges.after?_eq_some_iff_of_isJump`). So from a window of `n` whole periods a jump of `n`
leads to the next such window or to the one before, on whatever day the edges were at first.
Repeated jumps therefore cover the time without gap or overlap, and a jump is undone by the
opposite one (`Config.jumps_tile`).

* `Edges.monthJump_eq`, `Edges.yearJump_eq`: the two kinds of jumps are one, by periods.
* `Window.IsTile`: a window of `n` whole periods, by the number of its first one. There is one iff
  both ends are representable (`Window.exists_isTile_iff`).
* `Config.target?_eq_some_iff_of_jumps`, `Config.accepted_iff_of_jumps`: where a command that jumps
  leads, and when it is rejected.
* `Config.isChain_windows`: any number of jumps in one direction, by induction on them.
-/

set_option autoImplicit false

namespace SeriesPlot

/-- The unit that a period is typed as. -/
def Period.unit : Period → SpanUnit
  | month => .month
  | year => .year

/-- The jumps: typed changes that move freely by months or years, later or earlier. -/
structure Shift.IsJump (s : Shift) (p : Period) (later : Bool) : Prop where
  typed : ∃ word, TimeToken.parse? word = some (.ok (.shift s))
  pin : s.pin = .free
  direction : s.direction = if later then .forward else .backward
  unit : s.unit = some p.unit

/-- A typed jump is by at least one period. -/
theorem Shift.IsJump.one_le_wholeUnits {s : Shift} {p : Period} {later : Bool}
    (h : s.IsJump p later) : 1 ≤ wholeUnits s.length := by
  obtain ⟨word, hword⟩ := h.typed
  obtain ⟨n, hn, hpos, -⟩ :=
    Binary64.clampWhole?_bounds (length_ne_nan_of_parse? hword) (show 1 ≤ 4294967295 by decide)
  unfold wholeUnits
  rw [hn]
  exact hpos

/-- The number of the period that is `n` periods after the one of `t`, or before it. -/
def Instant.periodAway (t : Instant) (p : Period) (n : Nat) (later : Bool) : Int :=
  p.number t.date + if later then (n : Int) else -n

namespace Edges

variable {e moved : Edges} {s : Shift} {p : Period} {later : Bool}

/-- A jump by `n` periods of either kind. -/
def periodJump (t : Instant) (p : Period) (n : Nat) (later : Bool) : Move :=
  let start := Instant.periodStart? p (t.periodAway p n later)
  .ofEdges? start (start.bind fun u => Instant.periodStart? p (u.periodAway p n true))

/-- Both edges come from one kind of step, the stop from one that goes on from the start. -/
theorem ofEdges?_eq_periodJump {n : Nat} (reached : Instant → Bool → Option Instant)
    (h : ∀ t later, reached t later = Instant.periodStart? p (t.periodAway p n later))
    (t : Instant) (later : Bool) :
    Move.ofEdges? (reached t later) ((reached t later).bind fun u => reached u true) =
      periodJump t p n later := by
  unfold periodJump
  simp only [h]

/-- A jump by months goes to the start of the month so many away. -/
theorem monthJump_eq (t : Instant) (n : Nat) (later : Bool) :
    monthJump t n later = periodJump t .month n later := by
  refine ofEdges?_eq_periodJump (fun t later =>
    (if later then t.addMonths? n else t.subMonths? n).map Instant.monthStart) ?_ t later
  intro t later
  unfold Instant.periodAway
  rw [← Instant.bind_shiftMonths?_periodStart?, Option.map_eq_bind]
  simp only [Function.comp_def, Instant.monthStart_eq, Period.months_month, Int.one_mul]
  cases later <;> rfl

/-- A jump by years goes to the start of the year so many away, as a year is twelve months both
ways. -/
theorem yearJump_eq (t : Instant) (n : Nat) (later : Bool) :
    yearJump t n later = periodJump t .year n later := by
  refine ofEdges?_eq_periodJump (fun t later =>
    (if later then t.addYears? n else t.subYears? n).bind fun u =>
      Instant.yearStart? u.date.year) ?_ t later
  intro t later
  unfold Instant.periodAway
  rw [← Instant.bind_shiftMonths?_periodStart?, Period.months_year]
  cases later with
  | true => rfl
  | false =>
    -- A year is taken off as twelve months, so the sign stands inside the product.
    show (t.shiftMonths? (-((12 * n : Nat) : Int))).bind _ = (t.shiftMonths? (12 * -n)).bind _
    rw [Int.natCast_mul, ← Int.mul_neg]
    rfl

/-- Where a jump leads by the numbers of the periods: both edges are starts, one as many periods
after the other as were jumped. -/
theorem periodJump_eq_to_iff {t : Instant} {n : Nat} :
    periodJump t p n later = .to moved ↔
      p.IsStart (t.periodAway p n later) moved.start ∧
        p.IsStart (t.periodAway p n later + n) moved.stop := by
  unfold periodJump
  rw [ofEdges?_eq_to_iff, Instant.periodStart?_eq_some_iff]
  refine and_congr_right fun hstart => ?_
  -- The second step starts from the first day that the first one has reached.
  have haway : moved.start.periodAway p n true = t.periodAway p n later + n := by
    show p.number moved.start.date + (n : Int) = _
    rw [hstart.number_eq]
  rw [Instant.periodStart?_eq_some_iff.mpr hstart, Option.bind_some, haway,
    Instant.periodStart?_eq_some_iff]

/-- A free move by months or years is a jump from the start alone; the stop is not read. -/
theorem travel_eq_periodJump (h : s.IsJump p later) (amount : Binary64) :
    e.travel s amount later = periodJump e.start p (wholeUnits s.length) later := by
  unfold travel
  rw [h.pin, h.unit]
  cases p with
  | month => exact monthJump_eq _ _ _
  | year => exact yearJump_eq _ _ _

/-- A jump reaches the start of the period so many away, and the start of that so many on. -/
theorem after?_eq_some_iff_of_isJump (h : s.IsJump p later) (set : SourceSet) :
    e.after? set (.shift s) = some moved ↔
      p.IsStart (e.start.periodAway p (wholeUnits s.length) later) moved.start ∧
        p.IsStart (e.start.periodAway p (wholeUnits s.length) later + wholeUnits s.length)
          moved.stop := by
  have hpin : s.pin ≠ .both := by simp [h.pin]
  have hlater : (s.direction == .forward) = later := by
    rw [h.direction]
    cases later <;> rfl
  have honeWay : s.direction = .forward ∨ s.direction = .backward := by
    rw [h.direction]
    cases later with
    | true => exact .inl rfl
    | false => exact .inr rfl
  rw [after?_eq_some_iff_of_oneWay set honeWay hpin, hlater, travel_eq_periodJump h,
    periodJump_eq_to_iff]

end Edges

namespace Window

variable {w v : Window} {p : Period} {n : Nat} {k : Int}

/-- The window of `n` whole periods from the one with number `k` on. -/
structure IsTile (w : Window) (p : Period) (n : Nat) (k : Int) : Prop where
  start : p.IsStart k w.start
  stop : p.IsStart (k + n) w.stop

/-- The second window follows on the first one, or ends where that begins. -/
def IsBeside (later : Bool) (v w : Window) : Prop :=
  if later then w.start = v.stop else w.stop = v.start

/-- A tile exists iff both its first period and the one after its last are representable. -/
theorem exists_isTile_iff (hn : 1 ≤ n) :
    (∃ w : Window, w.IsTile p n k) ↔ p.InRange k ∧ p.InRange (k + n) := by
  constructor
  · rintro ⟨w, hw⟩
    exact ⟨Period.exists_isStart_iff.mp ⟨_, hw.start⟩, Period.exists_isStart_iff.mp ⟨_, hw.stop⟩⟩
  · rintro ⟨hstart, hstop⟩
    obtain ⟨start, hstart⟩ := Period.exists_isStart_iff.mpr hstart
    obtain ⟨stop, hstop⟩ := Period.exists_isStart_iff.mpr hstop
    exact ⟨⟨start, stop, hstart.lt hstop (by omega)⟩, hstart, hstop⟩

/-- Where a tile's neighbours are, in periods. -/
theorem IsTile.periodAway_eq (h : w.IsTile p n k) (later : Bool) :
    w.start.periodAway p n later = k + if later then (n : Int) else -n := by
  rw [Instant.periodAway, h.start.number_eq]

end Window

/-- A command with one time token, a jump of `n` periods, whatever else it asks for. -/
def Command.Jumps (command : Command) (p : Period) (n : Nat) (later : Bool) : Prop :=
  ∃ s : Shift, s.IsJump p later ∧ wholeUnits s.length = n ∧ command.times = [.shift s]

namespace Config

variable {c : Config} {set : SourceSet} {command : Command} {p : Period} {n : Nat} {later : Bool}

/-- The windows that a list of commands leads to, one for each command that is accepted. -/
def windows (set : SourceSet) : Config → List Command → List Window
  | _, [] => []
  | c, command :: rest =>
    let result := c.update set command
    if .windowRejected ∈ result.notices then result.config.windows set rest
    else result.config.window :: result.config.windows set rest

/-- A command jumps by at least one period. -/
theorem one_le_of_jumps (h : command.Jumps p n later) : 1 ≤ n := by
  obtain ⟨s, hs, rfl, -⟩ := h
  exact hs.one_le_wholeUnits

/-- A jump leads to the tile that begins so many periods away, and nowhere else. -/
theorem target?_eq_some_iff_of_jumps (h : command.Jumps p n later) {v : Window} :
    c.window.target? set command.times = some v ↔
      v.IsTile p n (c.window.start.periodAway p n later) := by
  obtain ⟨s, hs, rfl, htimes⟩ := h
  rw [htimes, Window.target?_singleton, Edges.after?_eq_some_iff_of_isJump hs]
  exact ⟨fun ⟨hstart, hstop⟩ => ⟨hstart, hstop⟩, fun h => ⟨h.start, h.stop⟩⟩

/-- A jump is accepted iff the starts of both periods are representable. -/
theorem accepted_iff_of_jumps (h : command.Jumps p n later) :
    .windowRejected ∉ (c.update set command).notices ↔
      p.InRange (c.window.start.periodAway p n later) ∧
        p.InRange (c.window.start.periodAway p n later + n) := by
  rw [windowRejected_not_mem_update_iff, ← Window.exists_isTile_iff (one_le_of_jumps h)]
  exact exists_congr fun v => target?_eq_some_iff_of_jumps h

/-- An accepted jump leaves a tile. -/
theorem isTile_of_jumps (h : command.Jumps p n later)
    (haccepted : .windowRejected ∉ (c.update set command).notices) :
    (c.update set command).config.window.IsTile p n (c.window.start.periodAway p n later) := by
  obtain ⟨v, htarget⟩ := (c.windowRejected_not_mem_update_iff set command).mp haccepted
  rw [c.window_update_of_target? set htarget]
  exact (target?_eq_some_iff_of_jumps h).mp htarget

/-- An accepted jump from a tile leads to the tile beside it. -/
theorem beside_of_jumps {k : Int} (htile : c.window.IsTile p n k) (h : command.Jumps p n later)
    (haccepted : .windowRejected ∉ (c.update set command).notices) :
    let next := (c.update set command).config.window
    next.IsTile p n (k + if later then (n : Int) else -n) ∧
      Window.IsBeside later c.window next := by
  intro next
  have hnext := isTile_of_jumps h haccepted
  rw [htile.periodAway_eq] at hnext
  refine ⟨hnext, ?_⟩
  cases later with
  | true => exact hnext.start.unique htile.stop
  | false =>
    have hstop := hnext.stop
    simp only [Bool.false_eq_true, if_false, Int.neg_add_cancel_right] at hstop
    exact hstop.unique htile.start

/-- From a tile on, each window of repeated jumps is beside the one before. -/
theorem isChain_cons_windows {k : Int} (htile : c.window.IsTile p n k) {commands : List Command}
    (h : ∀ command ∈ commands, command.Jumps p n later) :
    (c.window :: c.windows set commands).IsChain (Window.IsBeside later) := by
  induction commands generalizing c k with
  | nil => exact List.isChain_singleton _
  | cons command rest ih =>
    obtain ⟨hfirst, hrest⟩ := List.forall_mem_cons.mp h
    unfold windows
    dsimp only
    split
    case isTrue hrejected =>
      -- The window stays, and the rest goes on from it.
      have hstays := c.window_update_of_rejected set hrejected
      have hchain := ih (hstays ▸ htile) hrest
      rwa [hstays] at hchain
    case isFalse haccepted =>
      obtain ⟨hnext, hbeside⟩ := beside_of_jumps htile hfirst haccepted
      exact List.isChain_cons_cons.mpr ⟨hbeside, ih hnext hrest⟩

/-- The first window of repeated jumps is a tile, so each is beside the one before. -/
theorem isChain_windows {commands : List Command}
    (h : ∀ command ∈ commands, command.Jumps p n later) :
    (c.windows set commands).IsChain (Window.IsBeside later) := by
  induction commands generalizing c with
  | nil => exact List.isChain_nil
  | cons command rest ih =>
    obtain ⟨hfirst, hrest⟩ := List.forall_mem_cons.mp h
    unfold windows
    dsimp only
    split
    case isTrue => exact ih hrest
    case isFalse haccepted => exact isChain_cons_windows (isTile_of_jumps hfirst haccepted) hrest

/-- A jump by months or years is accepted iff both periods are in the range. Then the start is
the midnight at which the period begins that is so many after or before that of the start
edge, and the stop is that of the period so many on. Otherwise the window stays.

So repeated jumps one way lead to windows that each begin where the one before ends, or end
where it begins. And from a window that a jump has led to, a jump and the opposite one lead
back to it. -/
theorem jumps_tile (c : Config) (set : SourceSet) (p : Period) (n : Nat) :
    (∀ (command : Command) (later : Bool), command.Jumps p n later →
      let first := p.number c.window.start.date + if later then (n : Int) else -n
      let result := c.update set command
      1 ≤ n ∧
      (.windowRejected ∉ result.notices ↔ p.InRange first ∧ p.InRange (first + n)) ∧
      (.windowRejected ∉ result.notices →
        p.IsStart first result.config.window.start ∧
        p.IsStart (first + n) result.config.window.stop ∧
        result.config.window.start < result.config.window.stop) ∧
      (.windowRejected ∈ result.notices → result.config.window = c.window)) ∧
    (∀ (commands : List Command) (later : Bool),
      (∀ command ∈ commands, command.Jumps p n later) →
        (c.windows set commands).IsChain fun v w =>
          if later then w.start = v.stop else w.stop = v.start) ∧
    ∀ (made there back : Command) (before later : Bool), made.Jumps p n before →
      there.Jumps p n later → back.Jumps p n (!later) →
        let tile := c.update set made
        let next := tile.config.update set there
        .windowRejected ∉ tile.notices → .windowRejected ∉ next.notices →
          .windowRejected ∉ (next.config.update set back).notices ∧
            (next.config.update set back).config.window = tile.config.window := by
  refine ⟨?_, fun commands later h => isChain_windows h, ?_⟩
  · intro command later h
    exact ⟨one_le_of_jumps h, accepted_iff_of_jumps h,
      fun haccepted => ⟨(isTile_of_jumps h haccepted).start, (isTile_of_jumps h haccepted).stop,
        (c.update set command).config.window.start_lt_stop⟩, c.window_update_of_rejected set⟩
  · intro made there back before later hmade hthere hback tile next htile hnext
    -- The jump back goes to the number of the tile, and the tile shows that it is in the range.
    have hfirst := isTile_of_jumps hmade htile
    obtain ⟨hsecond, -⟩ := beside_of_jumps hfirst hthere hnext
    have htarget : next.config.window.target? set back.times = some tile.config.window := by
      rw [target?_eq_some_iff_of_jumps hback, hsecond.periodAway_eq]
      cases later with
      | true =>
        show tile.config.window.IsTile p n (c.window.start.periodAway p n before + n + -n)
        rw [Int.add_neg_cancel_right]
        exact hfirst
      | false =>
        show tile.config.window.IsTile p n (c.window.start.periodAway p n before + -n + n)
        rw [Int.neg_add_cancel_right]
        exact hfirst
    exact ⟨(next.config.windowRejected_not_mem_update_iff set back).mpr ⟨_, htarget⟩,
      next.config.window_update_of_target? set htarget⟩

/-- From the last day of January, a month on is in February, although that has no such day. -/
theorem jumps_tile_from_last_of_january :
    let c := { Session.sample.config with
      window := ⟨⟨1327986000000, by decide, by decide⟩, ⟨1328227200000, by decide, by decide⟩,
        by decide⟩ }
    let set := Session.sample.sources
    let jump (word : String) (direction : Direction) : Command :=
      { times := [.shift { word, direction, intensity := 1, magnitude := none,
                           unit := some .month, pin := .free, stopAnchored := false }] }
    let forward := jump ">m" .forward
    let backward := jump "<m" .backward
    Line.parse ">m" = .command forward ∧ Line.parse "<m" = .command backward ∧
      forward.Jumps .month 1 true ∧ backward.Jumps .month 1 false ∧
      c.window.start.date = ⟨2012, 1, 31⟩ ∧
      .windowRejected ∉ (c.update set forward).notices ∧
      (c.update set forward).config.window.start.date = ⟨2012, 2, 1⟩ ∧
      (c.update set forward).config.window.stop.date = ⟨2012, 3, 1⟩ ∧
      ((c.windows set [forward, forward, forward]).IsChain fun v w => w.start = v.stop) ∧
      (((c.update set forward).config.update set forward).config.update set
        backward).config.window = (c.update set forward).config.window := by
  intro c set jump forward backward
  have hforward : forward.Jumps .month 1 true :=
    ⟨_, ⟨⟨['>', 'm'], by decide +kernel⟩, rfl, rfl, rfl⟩, by decide +kernel, rfl⟩
  have hbackward : backward.Jumps .month 1 false :=
    ⟨_, ⟨⟨['<', 'm'], by decide +kernel⟩, rfl, rfl, rfl⟩, by decide +kernel, rfl⟩
  obtain ⟨hstep, hchain, hback⟩ := jumps_tile c set .month 1
  have hdate : c.window.start.date = ⟨2012, 1, 31⟩ := by decide +kernel
  obtain ⟨-, haccepted, hstart, -⟩ := hstep forward true hforward
  have htile : .windowRejected ∉ (c.update set forward).notices := by
    -- The two months after January are representable.
    rw [haccepted, hdate]
    decide +kernel
  have hnext : .windowRejected ∉ ((c.update set forward).config.update set forward).notices := by
    decide +kernel
  obtain ⟨hfirst, hlast, -⟩ := hstart htile
  obtain ⟨-, hrestored⟩ :=
    hback forward forward backward true true hforward hforward hbackward htile hnext
  refine ⟨by decide +kernel, by decide +kernel, hforward, hbackward, hdate, htile, ?_, ?_, ?_,
    hrestored⟩
  · rw [hfirst.date, hdate]
    decide
  · rw [hlast.date, hdate]
    decide
  · have hthree := hchain [forward, forward, forward] true (by simp [hforward])
    simp only [if_true] at hthree
    exact hthree

end Config

end SeriesPlot
