import Mathlib.Algebra.Group.Int.Defs
import SeriesPlot.Proofs.Binary64.Order
import SeriesPlot.Proofs.Calendar.Part
import SeriesPlot.Proofs.Update.Sequence
import SeriesPlot.Proofs.Update.Spread

/-!
# `SeriesPlot.Proofs.Update.Contraction`: what is left of a contracted window

Whether a contraction by a part of the width is skipped is decided by its ratio. Below the
limit the part for either edge is less than a half (`Shift.IsContraction.exists_part`). The edges
then move inwards by that part, rounded to milliseconds
(`Window.exists_outwardMillis?_of_isContraction`). The rounding can make a half of it after all,
so that the edges meet and the window is rejected. This takes an explicit ratio that leaves
little more than a millisecond (`Config.contraction_accepted_unless_edges_meet`).

* `Shift.IsContraction.reason_cases`: a contraction is skipped for a number that is taken for zero
  or for one that leaves nothing, and for nothing else.
* `Shift.TakesPart`: the part that either edge takes, for the usual ratio and for an explicit one.
  Half of an explicit number is exact.
* `Config.windowRejected_mem_contraction_iff`: the window is rejected iff the edges meet, which is
  a comparison of whole numbers of milliseconds.
* `Config.contraction_rejected`: a number for which they do.

The bounds on what is left come from `Magnitude.IsRoundedPart` in `Proofs/Calendar/Part.lean`.
-/

set_option autoImplicit false

namespace SeriesPlot

/-! ### The ratio of a contraction -/

/-- A half is what an explicit number is scaled by, and its opposite is the limit. -/
theorem exists_explicitRatioScale_eq : ∃ k : Magnitude, k.units * 2 = Magnitude.unitsPerOne ∧
    explicitRatioScale = .finite false k ∧ collapseRatio = .finite true k :=
  ⟨⟨2 ^ 52, 1021, by decide, by decide, by decide⟩, by decide +kernel, by decide +kernel,
    by decide +kernel⟩

/-- The numbers that are taken for zero are those below 2 ^ -52. -/
theorem exists_ratioThreshold_eq : ∃ k : Magnitude, 2 ^ 52 * k.units = Magnitude.unitsPerOne ∧
    ratioThreshold = .finite false k :=
  ⟨⟨2 ^ 52, 970, by decide, by decide, by decide⟩, by decide +kernel, by decide +kernel⟩

/-- The usual ratio is at most 0.21 and far from zero. -/
theorem exists_usualContraction_eq : ∃ k : Magnitude, 100 * k.units ≤ 21 * Magnitude.unitsPerOne ∧
    Magnitude.unitsPerOne ≤ 2 ^ 53 * k.units ∧ usualContraction = .finite false k :=
  ⟨⟨7205759403792794, 1019, by decide, by decide, by decide⟩, by decide +kernel,
    by decide +kernel, by decide +kernel⟩

namespace Shift

/-- A contraction without bars and without a unit, by a number that is not negative or by
none. -/
structure IsContraction (s : Shift) : Prop where
  contract : s.direction = .contract
  unit : s.unit = none
  pin : s.pin = .free
  nonneg : ∀ v, s.magnitude = some v → 0 ≤ v

/-- A part of the width for either edge that is less than a half: the usual one, or half of an
explicit number. -/
structure TakesPart (s : Shift) (r : Magnitude) : Prop where
  lt_half : 2 * r.units < Magnitude.unitsPerOne
  usual : s.magnitude = none → 100 * r.units ≤ 21 * Magnitude.unitsPerOne
  explicit : ∀ v, s.magnitude = some v → v.units = 2 * r.units

variable {s : Shift}

/-- A contraction is a move of both edges in opposite directions. -/
theorem IsContraction.isSpread (h : s.IsContraction) : s.IsSpread :=
  ⟨by rw [h.contract]; rfl, h.pin⟩

/-- A contraction is skipped for the reasons that a spread inwards has. -/
theorem IsContraction.skipReason?_eq (h : s.IsContraction) :
    s.skipReason? = s.spreadSkipReason? false := by
  rw [spreadSkipReason?_eq h.isSpread, h.contract]
  rfl

/-- There are two reasons to skip a contraction. -/
theorem IsContraction.reason_cases {reason : SkipReason} (h : s.IsContraction)
    (hreason : s.skipReason? = some reason) : reason = .zeroChange ∨ reason = .shrinkTooFar := by
  rw [h.skipReason?_eq, spreadSkipReason?] at hreason
  split at hreason
  · exact .inl (Option.some.inj hreason).symm
  · split at hreason
    · exact .inr (Option.some.inj hreason).symm
    · cases hreason

/-- The ratio of a contraction that is not skipped is above the one at which nothing is left. -/
theorem IsContraction.exists_ratio (h : s.IsContraction) (hreason : s.skipReason? = none) :
    ∃ ratio, Edges.outwardRatio? s false = some ratio ∧ ¬ratio ≤ collapseRatio := by
  rw [h.skipReason?_eq, spreadSkipReason?] at hreason
  cases hratio : Edges.outwardRatio? s false with
  | none => simp [(Edges.outwardRatio?_eq_none_iff s false).mp hratio] at hreason
  | some ratio =>
    refine ⟨ratio, rfl, fun hcollapse => ?_⟩
    split at hreason
    · cases hreason
    · simp [hratio, h.unit, hcollapse] at hreason

/-- A number that is not negative, and not taken for zero, has its half as the part for either
edge, if this is below the ratio at which nothing is left. -/
theorem exists_part_of_explicit {v : Binary64} (hnonneg : 0 ≤ v)
    (hnonzero : ¬v.abs < ratioThreshold) (hleft : ¬-(v * explicitRatioScale) ≤ collapseRatio) :
    ∃ r : Magnitude, -(v * explicitRatioScale) = .finite true r ∧
      Magnitude.unitsPerOne ≤ 2 ^ 53 * r.units ∧ 2 * r.units < Magnitude.unitsPerOne ∧
      v.units = 2 * r.units := by
  obtain ⟨k, hk, hscale, hcollapse⟩ := exists_explicitRatioScale_eq
  obtain ⟨t, ht, hthreshold⟩ := exists_ratioThreshold_eq
  have hunit := Magnitude.two_pow_le_unitsPerOne (by decide : 105 ≤ 1074)
  rw [hscale, hcollapse] at hleft
  rw [hthreshold] at hnonzero
  rw [hscale]
  have hzero : (0 : Binary64) = .finite false .zero := by decide +kernel
  rw [hzero] at hnonneg
  cases v with
  | nan => cases hnonneg
  -- Half of an infinity is an infinity, which leaves nothing.
  | infinite negative =>
    cases negative with
    | true => cases hnonneg
    | false =>
      have hscaleZero : k ≠ .zero := by
        rintro rfl
        have hunits : Magnitude.zero.units = 0 := rfl
        omega
      have hproduct : (.infinite false * .finite false k : Binary64) = .infinite false :=
        if_neg hscaleZero
      rw [hproduct, Binary64.neg_infinite] at hleft
      exact (hleft (Binary64.infinite_true_le nofun)).elim
  | finite negative m =>
    have hfull : t.units ≤ m.units := by
      have habs : (Binary64.finite negative m).abs = .finite false m := rfl
      rw [habs, Binary64.finite_lt_finite_iff] at hnonzero
      simpa [Binary64.units] using hnonzero
    rw [Binary64.finite_le_finite_iff] at hnonneg
    have hpositive : negative = false := by
      cases negative with
      | false => rfl
      | true =>
        have hbelow : 0 ≤ -(m.units : Int) := hnonneg
        omega
    subst hpositive
    -- The number is far from the smallest magnitudes, so its half is exact.
    obtain ⟨r, hr, hunits⟩ := Binary64.exists_mul_half hk (by omega : 2 ^ 53 ≤ m.units) false false
    rw [hr, Binary64.neg_finite] at hleft ⊢
    rw [Binary64.finite_le_finite_iff] at hleft
    have hless : r.units < k.units := by simpa [Binary64.units] using hleft
    refine ⟨r, rfl, by omega, by omega, ?_⟩
    show (m.units : Int) = 2 * r.units
    omega

/-- A contraction that is not skipped takes a part of the width that is less than a half from
either edge. -/
theorem IsContraction.exists_part (h : s.IsContraction) (hreason : s.skipReason? = none) :
    ∃ r : Magnitude, Edges.outwardRatio? s false = some (.finite true r) ∧
      Magnitude.unitsPerOne ≤ 2 ^ 53 * r.units ∧ s.TakesPart r := by
  obtain ⟨ratio, hratio, hleft⟩ := h.exists_ratio hreason
  unfold Edges.outwardRatio? at hratio ⊢
  cases hmagnitude : s.magnitude with
  | none =>
    obtain ⟨r, hfifth, hlow, hr⟩ := exists_usualContraction_eq
    have hunit := Magnitude.unitsPerOne_pos
    refine ⟨r, ?_, hlow, by omega, fun _ => hfifth, fun v hv => ?_⟩
    · rw [hr]
      rfl
    · rw [hmagnitude] at hv
      cases hv
  -- An explicit number is halved, unless it is taken for zero.
  | some v =>
    rw [hmagnitude] at hratio
    by_cases hzero : v.abs < ratioThreshold
    · simp [hzero] at hratio
    · simp only [if_neg hzero, Option.map_some, Bool.false_eq_true, if_false] at hratio ⊢
      obtain rfl := Option.some.inj hratio
      obtain ⟨r, hr, hlow, hhigh, hunits⟩ :=
        exists_part_of_explicit (h.nonneg v hmagnitude) hzero hleft
      refine ⟨r, congrArg some hr, hlow, hhigh, fun hnone => ?_, fun v' hv' => ?_⟩
      · rw [hmagnitude] at hnone
        cases hnone
      · rw [hmagnitude] at hv'
        exact Option.some.inj hv' ▸ hunits

/-- If the edges meet, the part was half of an explicit number that is just below one. -/
theorem TakesPart.exists_left_of_meet {r : Magnitude} {w n : Nat} (h : s.TakesPart r)
    (hrounded : r.IsRoundedPart w n) (hpos : 1 ≤ w) (hmeet : w ≤ 2 * n) :
    ∃ (v : Binary64) (left : Nat), s.magnitude = some v ∧
      v.units + left = Magnitude.unitsPerOne ∧ 0 < left ∧
      2 ^ 50 * (w * left) ≤ (2 ^ 50 + w) * Magnitude.unitsPerOne ∧
      (w % 2 = 1 → 2 ^ 50 * left ≤ Magnitude.unitsPerOne) := by
  obtain ⟨left, hleft⟩ := Nat.le.dest (Nat.le_of_lt h.lt_half)
  have hhalf := h.lt_half
  cases hmagnitude : s.magnitude with
  | none =>
    have hapart := hrounded.lt_of_usual (h.usual hmagnitude) hpos
    omega
  | some v =>
    have hunits := h.explicit v hmagnitude
    exact ⟨v, left, rfl, by omega, by omega, hrounded.left_le hleft hmeet,
      hrounded.left_le_of_odd hleft hmeet⟩

end Shift

/-! ### The contracted window -/

namespace Window

variable {s : Shift} {win v : Window} {set : SourceSet}

/-- No window is wider than the range of the representable instants. -/
theorem widthMillis_le (win : Window) :
    win.widthMillis ≤ Instant.latestMillis - Instant.earliestMillis :=
  Int.sub_le_sub win.stop.le_latest win.start.earliest_le

/-- Edges that both move outwards by some milliseconds gain twice as many of width. -/
theorem widthMillis_of_movedApartBy {d : Int} (h : win.edges.MovedApartBy d v.edges) :
    v.widthMillis = win.widthMillis + 2 * d := by
  obtain ⟨hstart, hstop⟩ := h
  show v.edges.stop.millis - v.edges.start.millis =
    win.edges.stop.millis - win.edges.start.millis + 2 * d
  omega

/-- Either edge moves inwards by a part of the width, rounded to milliseconds. -/
theorem exists_outwardMillis?_of_isContraction {w : Nat} (hw : win.widthMillis = w)
    (h : s.IsContraction) (hreason : s.skipReason? = none) :
    ∃ (r : Magnitude) (n : Nat), win.edges.outwardMillis? s = some (-(n : Int)) ∧
      s.TakesPart r ∧ r.IsRoundedPart w n := by
  have hpos := win.widthMillis_pos
  obtain ⟨r, hratio, hlow, hpart⟩ := h.exists_part hreason
  obtain ⟨n, hn, hrounded⟩ :=
    exists_wholeMillis?_part hlow hpart.lt_half (by omega : 1 ≤ w) (hw ▸ win.widthMillis_le)
  have hseconds : win.edges.seconds = .ofInt w / 1000 := by
    rw [← hw]
    rfl
  -- Inwards by a part is outwards by minus that part, which is rounded alike.
  have houtwards : win.edges.outwardSeconds? s =
      some (-(.finite false r * (.ofInt w / 1000))) := by
    unfold Edges.outwardSeconds?
    rw [h.contract, h.unit, hseconds, ← Binary64.neg_mul]
    show (Edges.outwardRatio? s false).map _ = _
    rw [hratio]
    rfl
  refine ⟨r, n, ?_, hpart, hrounded⟩
  unfold Edges.outwardMillis?
  rw [houtwards, Option.bind_some, wholeMillis?_neg, hn]
  rfl

/-- A contraction that is not skipped leads to a window iff the edges do not meet. -/
theorem target?_contraction {n : Nat} (h : s.IsContraction) (hreason : s.skipReason? = none)
    (hn : win.edges.outwardMillis? s = some (-(n : Int))) :
    (win.target? set [.shift s] = some v ↔ win.edges.MovedApartBy (-n) v.edges) ∧
      ((∃ v, win.target? set [.shift s] = some v) ↔ 2 * (n : Int) < win.widthMillis) := by
  have htarget (v : Window) :
      win.target? set [.shift s] = some v ↔ win.edges.MovedApartBy (-n) v.edges := by
    have hkept (notice : Notice) : win.edges.step set (.shift s) ≠ .skipped notice := by
      show win.edges.shift s ≠ .skipped notice
      rw [Ne, Edges.shift_eq_skipped_iff, hreason]
      exact nofun
    rw [target?_singleton, Edges.after?_eq_some_iff hkept]
    show win.edges.shift s = .to v.edges ↔ _
    rw [Edges.shift_eq_to_iff_of_isSpread h.isSpread, hreason, hn]
    simp
  refine ⟨htarget v, ?_⟩
  have hwidth : win.widthMillis = win.edges.stop.millis - win.edges.start.millis := rfl
  constructor
  · rintro ⟨v, hv⟩
    have hless := widthMillis_of_movedApartBy ((htarget v).mp hv)
    have hpos := v.widthMillis_pos
    omega
  · intro hmeet
    -- What is between the edges is representable.
    have hearliest := win.edges.start.earliest_le
    have hlatest := win.edges.stop.le_latest
    let start : Instant := ⟨win.edges.start.millis + n, by omega, by omega⟩
    let stop : Instant := ⟨win.edges.stop.millis - n, by omega, by omega⟩
    have hordered : start.millis < stop.millis := by
      show win.edges.start.millis + n < win.edges.stop.millis - n
      omega
    exact ⟨⟨start, stop, hordered⟩, (htarget _).mpr ⟨(Int.sub_neg _ _).symm, rfl⟩⟩

end Window

namespace Config

variable {c : Config} {set : SourceSet} {command : Command} {s : Shift} {n : Nat}

/-- If it is not skipped, a contraction is rejected iff the edges meet. -/
theorem windowRejected_mem_contraction_iff (htimes : command.times = [.shift s])
    (h : s.IsContraction) (hreason : s.skipReason? = none)
    (hn : c.window.edges.outwardMillis? s = some (-(n : Int))) :
    .windowRejected ∈ (c.update set command).notices ↔ c.window.widthMillis ≤ 2 * n := by
  have haccepted := c.windowRejected_not_mem_update_iff set command
  rw [htimes, (Window.target?_contraction (v := c.window) h hreason hn).2] at haccepted
  refine Decidable.not_iff_not.mp (haccepted.trans ?_)
  omega

/-- If it is accepted, both edges have moved inwards. -/
theorem movedApartBy_of_contraction (htimes : command.times = [.shift s])
    (h : s.IsContraction) (hreason : s.skipReason? = none)
    (hn : c.window.edges.outwardMillis? s = some (-(n : Int)))
    (haccepted : .windowRejected ∉ (c.update set command).notices) :
    c.window.edges.MovedApartBy (-n) (c.update set command).config.window.edges := by
  obtain ⟨v, hv⟩ := (c.windowRejected_not_mem_update_iff set command).mp haccepted
  rw [c.window_update_of_target? set hv]
  rw [htimes] at hv
  exact (Window.target?_contraction h hreason hn).1.mp hv

/-- A contraction without bars and without a unit is skipped for one of two reasons, of which
the user is told, or it moves either edge inwards by a number of milliseconds. It is accepted if
the edges do not meet, and otherwise it is rejected. The old window is kept unless the
contraction is accepted.

The edges meet only for an explicit number that leaves little of the window: not much more than
one millisecond, or hardly anything if the window is an odd number of milliseconds wide. They do
meet if the window is an even number wide and not much less than one is left. -/
theorem contraction_accepted_unless_edges_meet (c : Config) (set : SourceSet)
    {command : Command} {s : Shift} (htimes : command.times = [.shift s])
    (h : s.IsContraction) :
    let update := c.update set command
    let width := c.window.widthMillis
    let one := Magnitude.unitsPerOne
    (∀ reason, s.skipReason? = some reason →
      (reason = .zeroChange ∨ reason = .shrinkTooFar) ∧
        .shiftSkipped s.word reason ∈ update.notices ∧ .windowRejected ∉ update.notices ∧
        update.config.window = c.window) ∧
    (s.skipReason? = none → ∃ n : Nat, c.window.edges.outwardMillis? s = some (-(n : Int)) ∧
      (2 * n < width → .windowRejected ∉ update.notices ∧
        c.window.edges.MovedApartBy (-n) update.config.window.edges) ∧
      (width ≤ 2 * n → .windowRejected ∈ update.notices ∧ update.config.window = c.window)) ∧
    (.windowRejected ∈ update.notices → ∃ (v : Binary64) (left : Nat),
      s.magnitude = some v ∧ v.units + left = one ∧ 0 < left ∧
        2 ^ 50 * (width * left) ≤ (2 ^ 50 + width) * one ∧
        (width % 2 = 1 → 2 ^ 50 * left ≤ one)) ∧
    ∀ (v : Binary64) (left : Nat), s.skipReason? = none → s.magnitude = some v →
      v.units + left = one → width % 2 = 0 →
      2 ^ 50 * (width * left) + width * one ≤ 2 ^ 50 * one → .windowRejected ∈ update.notices := by
  intro update width one
  obtain ⟨w, hw⟩ := Int.eq_ofNat_of_zero_le (Int.le_of_lt c.window.widthMillis_pos)
  have hpos := c.window.widthMillis_pos
  have hwidth : width = w := hw
  -- A token that is skipped is told about and changes nothing.
  have hskipped (reason : SkipReason) (hreason : s.skipReason? = some reason) :
      .shiftSkipped s.word reason ∈ update.notices ∧ .windowRejected ∉ update.notices ∧
        update.config.window = c.window := by
    have hnotice : (TimeToken.shift s).skipNotice? set = some (.shiftSkipped s.word reason) := by
      rw [TimeToken.skipNotice?, hreason]
      rfl
    exact c.update_of_skipNotice? set htimes hnotice
  refine ⟨fun reason hreason => ⟨h.reason_cases hreason, hskipped reason hreason⟩,
    fun hreason => ?_, fun hmem => ?_, fun v left hreason hv hleft heven hsmall => ?_⟩
  · obtain ⟨r, n, hn, -⟩ := Window.exists_outwardMillis?_of_isContraction hw h hreason
    have hrejected : .windowRejected ∈ update.notices ↔ width ≤ 2 * n :=
      windowRejected_mem_contraction_iff htimes h hreason hn
    refine ⟨n, hn, fun hapart => ?_, fun hmeet => ?_⟩
    · have haccepted : .windowRejected ∉ update.notices := by
        rw [hrejected]
        omega
      exact ⟨haccepted, movedApartBy_of_contraction htimes h hreason hn haccepted⟩
    · have hmem := hrejected.mpr hmeet
      exact ⟨hmem, c.window_update_of_rejected set hmem⟩
  · -- A rejection is not told for a skipped token, so the edges have met.
    have hreason : s.skipReason? = none := by
      rw [Option.eq_none_iff_forall_ne_some]
      intro reason hreason
      exact (hskipped reason hreason).2.1 hmem
    obtain ⟨r, n, hn, hpart, hrounded⟩ :=
      Window.exists_outwardMillis?_of_isContraction hw h hreason
    have hmeet := (windowRejected_mem_contraction_iff htimes h hreason hn).mp hmem
    obtain ⟨v, left, hv, hsum, hleft, hbound, hodd⟩ :=
      hpart.exists_left_of_meet hrounded (by omega) (by omega)
    rw [hwidth]
    exact ⟨v, left, hv, hsum, hleft, by exact_mod_cast hbound, fun h => hodd (by omega)⟩
  · obtain ⟨r, n, hn, hpart, hrounded⟩ :=
      Window.exists_outwardMillis?_of_isContraction hw h hreason
    refine (windowRejected_mem_contraction_iff htimes h hreason hn).mpr ?_
    have hunits := hpart.explicit v hv
    have hsum : 2 * r.units + left = one := by omega
    rw [hwidth] at hsmall
    have hmeet := hrounded.le_of_even hsum (by omega) (by exact_mod_cast hsmall)
    omega

/-- Of ten hours less than four milliseconds are to be left, and four are. -/
theorem contraction_accepted_unless_edges_meet_of_millis :
    let c := Session.sample.config
    let s : Shift := { word := "><0.9999999", direction := .contract, intensity := 1,
                       magnitude := some 0.9999999, unit := none, pin := .free,
                       stopAnchored := false }
    let update := c.update Session.sample.sources { times := [.shift s] }
    Line.parse "><0.9999999" = .command { times := [.shift s] } ∧ s.IsContraction ∧
      s.skipReason? = none ∧ .windowRejected ∉ update.notices ∧
      update.config.window.widthMillis = 4 := by
  intro c s update
  have hcontraction : s.IsContraction :=
    ⟨rfl, rfl, rfl, fun v hv => Option.some.inj hv ▸ by decide +kernel⟩
  have hreason : s.skipReason? = none := by decide +kernel
  let command : Command := { times := [.shift s] }
  have htimes : command.times = [.shift s] := rfl
  obtain ⟨-, hkept, -, -⟩ :=
    contraction_accepted_unless_edges_meet c Session.sample.sources htimes hcontraction
  obtain ⟨n, hn, haccepted, -⟩ := hkept hreason
  have hmillis : c.window.edges.outwardMillis? s = some (-17999998) := by decide +kernel
  have hsame : n = 17999998 := by
    rw [hmillis] at hn
    have hinj := Option.some.inj hn
    omega
  subst hsame
  -- Both edges move by less than half of the width.
  obtain ⟨hnotices, hmoved⟩ := haccepted (by decide)
  refine ⟨by decide +kernel, hcontraction, hreason, hnotices, ?_⟩
  rw [Window.widthMillis_of_movedApartBy hmoved]
  decide

/-- Of the ten hours that a session begins with, less than half a millisecond is to be left. The
contraction is not skipped, and the edges meet. -/
theorem contraction_rejected :
    let c := Session.sample.config
    let s : Shift := { word := "><0.99999999", direction := .contract, intensity := 1,
                       magnitude := some 0.99999999, unit := none, pin := .free,
                       stopAnchored := false }
    let update := c.update Session.sample.sources { times := [.shift s] }
    ({} : Settings).build c.window = .ok c ∧
      Line.parse "><0.99999999" = .command { times := [.shift s] } ∧ s.IsContraction ∧
      s.skipReason? = none ∧ update.notices = [.windowRejected] := by
  intro c s update
  have hcontraction : s.IsContraction :=
    ⟨rfl, rfl, rfl, fun v hv => Option.some.inj hv ▸ by decide +kernel⟩
  exact ⟨Session.build_sample, by decide +kernel, hcontraction, by decide +kernel,
    by decide +kernel⟩

end Config

end SeriesPlot
