import SeriesPlot.Proofs.Command.Absolute
import SeriesPlot.Proofs.Update.Sequence

/-!
# `SeriesPlot.Proofs.Update.Absolute`: absolute commands given again

A command whose words only say what is to be does the same when it is given again
(`Config.update_update`).

* `Edges.foldlM_after?_of_isAbsolute`: after absolute time tokens, each edge is a constant or
  what it was. So going through them again changes nothing, whether or not the edges are in
  order (`Window.change_change`).
* `OptionChange.foldl_apply_apply`: an option that comes again later in the list has no effect
  where it comes first. Options that set the same part overwrite each other, and all others pass
  each other by (`OptionChange.part?`).
* `Config.moved_moved`, `Config.moved_foldl_apply`: what is moved stays moved, and options do not
  come into it.
* `Config.update_due`: an update does not read what is due, so the second time starts from the same
  state although other things are due in it.
-/

set_option autoImplicit false

namespace SeriesPlot

/-! ### Time tokens -/

namespace Edges

variable (set : SourceSet)

/-- The edges with constants in place of some. -/
def overwritten (start stop : Option Instant) (e : Edges) : Edges :=
  ⟨start.getD e.start, stop.getD e.stop⟩

/-- Of two constants for one edge the later one counts. -/
theorem overwritten_overwritten (start stop start' stop' : Option Instant) (e : Edges) :
    overwritten start' stop' (overwritten start stop e) =
      overwritten (start'.or start) (stop'.or stop) e := by
  cases start' <;> cases stop' <;> rfl

/-- An absolute token overwrites each edge or leaves it, the same from all edges. -/
theorem exists_after?_of_isAbsolute {token : TimeToken} (h : token.IsAbsolute) :
    ∃ start stop, ∀ e : Edges, e.after? set token = some (overwritten start stop e) := by
  cases token with
  | start t => exact ⟨some t, none, fun e => rfl⟩
  | stop t => exact ⟨none, some t, fun e => rfl⟩
  | centre t => exact h.elim
  | full => exact ⟨some set.union.start, some set.union.stop, fun e => rfl⟩
  -- A token that names nothing leaves both edges, and it does so from everywhere.
  | overlap =>
    cases hoverlap : set.overlap with
    | none => exact ⟨none, none, fun e => by simp [after?, step, hoverlap, overwritten]⟩
    | some w =>
      exact ⟨some w.start, some w.stop, fun e => by simp [after?, step, hoverlap, overwritten]⟩
  | source letter =>
    cases hsource : set.get? letter with
    | none => exact ⟨none, none, fun e => by simp [after?, step, hsource, overwritten]⟩
    | some source =>
      exact ⟨some source.start, some source.stop,
        fun e => by simp [after?, step, hsource, overwritten]⟩
  | shift s => exact h.elim

/-- Absolute tokens overwrite each edge or leave it, and they never lead out of range. -/
theorem foldlM_after?_of_isAbsolute {tokens : List TimeToken}
    (h : ∀ token ∈ tokens, token.IsAbsolute) :
    ∃ start stop, ∀ e : Edges,
      tokens.foldlM (after? set) e = some (overwritten start stop e) := by
  induction tokens with
  | nil => exact ⟨none, none, fun e => rfl⟩
  | cons token rest ih =>
    obtain ⟨start, stop, hfirst⟩ := exists_after?_of_isAbsolute set (h token List.mem_cons_self)
    obtain ⟨start', stop', hrest⟩ := ih fun later hlater => h later (List.mem_cons_of_mem _ hlater)
    refine ⟨start'.or start, stop'.or stop, fun e => ?_⟩
    rw [List.foldlM_cons, hfirst, ← overwritten_overwritten]
    exact hrest _

end Edges

/-- Absolute tokens lead to the same window from where they have led, or are rejected again. -/
theorem Window.change_change {w : Window} {set : SourceSet} {tokens : List TimeToken}
    (h : ∀ token ∈ tokens, token.IsAbsolute) :
    (w.change set tokens).1.change set tokens = w.change set tokens := by
  obtain ⟨start, stop, hfold⟩ := Edges.foldlM_after?_of_isAbsolute set h
  have htold : ∀ v : Window, v.told set tokens = tokens.filterMap (·.skipNotice? set) := by
    intro v
    rw [told, Edges.reached_eq_self (hfold v.edges)]
  cases htarget : w.target? set tokens with
  | none =>
    rw [change_eq w, htarget]
    exact (change_eq w set tokens).trans (by rw [htarget])
  | some v =>
    -- Edges that have been overwritten are overwritten with the same constants again.
    have hagain : v.target? set tokens = some v := by
      obtain ⟨e, hlast, hordered, hedges⟩ := target?_eq_some_iff.mp htarget
      rw [hfold] at hlast
      obtain rfl := Option.some.inj hlast
      refine target?_eq_some_iff.mpr ⟨v.edges, ?_, v.start_lt_stop, rfl⟩
      rw [hfold, hedges, Edges.overwritten_overwritten, Option.or_self, Option.or_self]
    rw [change_eq w, htarget, Option.getD_some, change_eq v, hagain, htold, htold]
    rfl

/-! ### Options -/

namespace OptionChange

/-- The parts of a state that options set. -/
inductive Part where
  | style
  | lineWidth
  | missing
  | ticks
  | title
  | echo
deriving DecidableEq

/-- The part that an option sets, if it sets any. -/
def part? : OptionChange → Option Part
  | .style _ | .resetStyle => some .style
  | .lineWidth _ | .resetLineWidth => some .lineWidth
  | .missing _ | .resetMissing => some .missing
  | .ticks _ | .toggleTicks => some .ticks
  | .title _ | .toggleTitle => some .title
  | .toggleEcho => some .echo
  | .unsupported _ | .invalidValue _ _ => none

/-- An absolute option overwrites what an earlier one of the same part has set. -/
theorem apply_apply_of_part?_eq {x y : OptionChange} (hy : y.IsAbsolute)
    (h : x.part? = y.part?) (c : Config) : y.apply (x.apply c) = y.apply c := by
  cases y with
  | toggleTicks => exact hy.elim
  | toggleTitle => exact hy.elim
  | toggleEcho => exact hy.elim
  | _ => cases x <;> cases h <;> rfl

/-- Options of different parts do not see each other. -/
theorem apply_apply_of_part?_ne {x y : OptionChange} (h : x.part? ≠ y.part?) (c : Config) :
    y.apply (x.apply c) = x.apply (y.apply c) := by
  cases x <;> cases y <;> first | rfl | exact absurd rfl h

/-- What comes again later has no effect where it comes first. -/
theorem foldl_apply_apply {changes : List OptionChange}
    (h : ∀ change ∈ changes, change.IsAbsolute) {x : OptionChange} (hx : x ∈ changes)
    (c : Config) : changes.foldl apply (x.apply c) = changes.foldl apply c := by
  induction changes generalizing c with
  | nil => exact nomatch hx
  | cons y rest ih =>
    rw [List.foldl_cons, List.foldl_cons]
    -- On its way to where it comes again, the option is overwritten or passes by.
    by_cases hpart : x.part? = y.part?
    · rw [apply_apply_of_part?_eq (h y List.mem_cons_self) hpart]
    · have hlater : x ∈ rest := (List.mem_cons.mp hx).resolve_left fun heq => hpart (heq ▸ rfl)
      rw [apply_apply_of_part?_ne hpart]
      exact ih (fun change hchange => h change (List.mem_cons_of_mem y hchange)) hlater _

/-- No option reads or changes what is due. -/
theorem foldl_apply_due (changes : List OptionChange) (c : Config) (title ticks : Bool) :
    changes.foldl apply { c with titleDue := title, ticksDue := ticks } =
      { changes.foldl apply c with titleDue := title, ticksDue := ticks } := by
  induction changes generalizing c with
  | nil => rfl
  | cons change rest ih =>
    have hfirst : change.apply { c with titleDue := title, ticksDue := ticks } =
        { change.apply c with titleDue := title, ticksDue := ticks } := by
      cases change <;> rfl
    rw [List.foldl_cons, List.foldl_cons, hfirst, ih]

/-- All that the options do the first time, they overwrite the second time. -/
theorem foldl_apply_foldl_apply {changes : List OptionChange}
    (h : ∀ change ∈ changes, change.IsAbsolute) (c : Config) :
    changes.foldl apply (changes.foldl apply c) = changes.foldl apply c := by
  suffices hfirst : ∀ first : List OptionChange, (∀ change ∈ first, change ∈ changes) →
      ∀ c, changes.foldl apply (first.foldl apply c) = changes.foldl apply c from
    hfirst changes (fun _ hchange => hchange) c
  intro first
  induction first with
  | nil => exact fun _ _ => rfl
  | cons change rest ih =>
    intro hmem c
    rw [List.foldl_cons, ih fun later hlater => hmem later (List.mem_cons_of_mem _ hlater)]
    exact foldl_apply_apply h (hmem change List.mem_cons_self) c

end OptionChange

/-! ### Commands -/

namespace Config

variable (c : Config) (set : SourceSet) {command : Command}

/-- What a command does with a state does not depend on what is due in it. -/
theorem update_due (command : Command) (title ticks : Bool) :
    { c with titleDue := title, ticksDue := ticks }.update set command =
      c.update set command := by
  have hnotices : ({ c with titleDue := title, ticksDue := ticks }.update set command).notices =
      (c.update set command).notices := by
    rw [notices_update, notices_update c]
    rfl
  have hmoved : { c with titleDue := title, ticksDue := ticks }.moved set command =
      { c.moved set command with titleDue := title, ticksDue := ticks } := by
    unfold moved
    rfl
  rw [update_eq, update_eq c, hnotices, hmoved, OptionChange.foldl_apply_due]
  rfl

/-- What an absolute command moves is there already when it is given again. -/
theorem moved_moved (h : command.IsAbsolute) : (c.moved set command).moved set command =
    c.moved set command := by
  -- A step of the column is not absolute, so a selection is given or left.
  have hselection : ((c.moved set command).moved set command).selection =
      (c.moved set command).selection := by
    cases hchange : command.selection with
    | none => simp only [moved, hchange]
    | some change =>
      have habsolute := h.selection change hchange
      cases change with
      | select selection =>
        unfold moved
        rw [hchange]
        rfl
      | next => exact habsolute.elim
      | previous => exact habsolute.elim
  have hwindow : ((c.moved set command).moved set command).window =
      (c.moved set command).window := by
    rw [moved_eq, moved_eq c]
    exact congrArg Prod.fst (Window.change_change h.times)
  -- What is given once is given the second time as well.
  have hyRange : ((c.moved set command).moved set command).yRange =
      (c.moved set command).yRange := by
    show command.yRange.getD (command.yRange.getD c.yRange) = command.yRange.getD c.yRange
    cases command.yRange <;> rfl
  calc (c.moved set command).moved set command
    _ = { c.moved set command with
          selection := ((c.moved set command).moved set command).selection
          window := ((c.moved set command).moved set command).window
          yRange := ((c.moved set command).moved set command).yRange } := rfl
    _ = c.moved set command := by rw [hselection, hwindow, hyRange]

/-- No option reads or changes what a command moves. -/
theorem moved_foldl_apply (changes : List OptionChange) :
    (changes.foldl OptionChange.apply c).moved set command =
      changes.foldl OptionChange.apply (c.moved set command) := by
  induction changes generalizing c with
  | nil => rfl
  | cons change rest ih =>
    have hfirst : (change.apply c).moved set command = change.apply (c.moved set command) := by
      unfold moved
      cases change <;> rfl
    rw [List.foldl_cons, List.foldl_cons, ih, hfirst]

/-- What is told before the time tokens of an absolute command does not depend on the state. -/
theorem noticesBeforeTimes_of_isAbsolute (h : command.IsAbsolute) (d : Config) :
    d.noticesBeforeTimes set command = c.noticesBeforeTimes set command := by
  unfold noticesBeforeTimes
  cases hchange : command.selection with
  | none => rfl
  | some change =>
    have habsolute := h.selection change hchange
    cases change with
    | select selection => rfl
    | next => exact habsolute.elim
    | previous => exact habsolute.elim

/-- An absolute command does the same when it is given again. Nothing is due for it then. -/
theorem update_update (h : command.IsAbsolute) :
    (c.update set command).config.update set command =
      { config := { (c.update set command).config with titleDue := false, ticksDue := false }
        notices := (c.update set command).notices } := by
  generalize hd : command.options.foldl OptionChange.apply (c.moved set command) = d
  have hconfig : (c.update set command).config = { d with
      titleDue := (c.update set command).config.titleDue
      ticksDue := (c.update set command).config.ticksDue } := by
    rw [← hd]
    exact update_config c set command
  have hwindow : d.window = (c.window.change set command.times).1 := by
    rw [← c.window_update set command, hconfig]
  -- The state that a command leads to, but for what is due, is where it leads from there.
  have hsettled : command.options.foldl OptionChange.apply (d.moved set command) = d := by
    rw [← hd, moved_foldl_apply, moved_moved c set h]
    exact OptionChange.foldl_apply_foldl_apply h.options _
  have hnotices : (d.update set command).notices = (c.update set command).notices := by
    rw [notices_update, notices_update c, noticesBeforeTimes_of_isAbsolute c set h, hwindow,
      Window.change_change h.times]
  rw [hconfig, update_due, update_eq, hsettled, hnotices]
  simp [titleChanged, ticksChanged]

end Config

end SeriesPlot
