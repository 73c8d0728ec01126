import SeriesPlot.Proofs.Update.Edges
import SeriesPlot.Proofs.Update.WellFormed

/-!
# `SeriesPlot.Proofs.Update.Window`: the window changes as a whole or not at all

The time tokens of a command are one fold over the edges of the window
(`Proofs/Update/Edges.lean`). Only the last pair of edges is looked at: it becomes the
window if it is in order, and otherwise the window stays and the user is told so once
(`Window.change_eq`). Nothing else in a command reads the window before the end. So the
rest of the state and the rest of what is told are those of the same command without
time tokens (`Config.update_window_atomic`).

* `Window.target?`: the window that a list of tokens leads to, if it leads to one
  (`Window.target?_eq_some_iff`, `Window.target?_eq_none_iff`).
* `Config.window_update`, `Config.config_update_eq`: the window of the new state, and all the rest
  of it.
* `Config.notices_update`: what a command tells, in order. Only a window that is rejected is told of
  as such, whatever else there is to tell (`Config.windowRejected_not_mem_rest`).
-/

set_option autoImplicit false

namespace SeriesPlot

namespace Window

/-- A window has a width, as its edges are in order. -/
theorem widthMillis_pos (w : Window) : 0 < w.widthMillis :=
  Int.sub_pos_of_lt w.start_lt_stop

/-- The window that a list of tokens leads to; none if a token leads out of range or the
edges after the last one are not in order. -/
def target? (w : Window) (set : SourceSet) (tokens : List TimeToken) : Option Window :=
  (tokens.foldlM (Edges.after? set) w.edges).bind fun e => of? e.start e.stop

/-- What the user is told about the tokens that are skipped. -/
def told (w : Window) (set : SourceSet) (tokens : List TimeToken) : List Notice :=
  (Edges.reached set w.edges tokens).filterMap (·.skipNotice? set)

/-- Time tokens lead to their target or leave the window, and a rejection is told last. -/
theorem change_eq (w : Window) (set : SourceSet) (tokens : List TimeToken) :
    w.change set tokens =
      ((w.target? set tokens).getD w, w.told set tokens ++
        if (w.target? set tokens).isSome then [] else [Notice.windowRejected]) := by
  unfold change target? told
  rw [Edges.run_eq]
  dsimp only
  cases (tokens.foldlM (Edges.after? set) w.edges).bind fun e => of? e.start e.stop with
  | none => rfl
  | some changed => simp

/-- No tokens lead to the window itself. -/
theorem target?_nil (w : Window) (set : SourceSet) : w.target? set [] = some w :=
  of?_eq_some_iff.mpr ⟨rfl, rfl⟩

/-- No tokens, no change and nothing to tell. -/
theorem change_nil (w : Window) (set : SourceSet) : w.change set [] = (w, []) := by
  rw [change_eq, target?_nil]
  rfl

/-- Tokens lead to a window iff none of them leads out of range and the last edges are in order.
-/
theorem target?_eq_some_iff {w v : Window} {set : SourceSet} {tokens : List TimeToken} :
    w.target? set tokens = some v ↔
      ∃ e, tokens.foldlM (Edges.after? set) w.edges = some e ∧ e.start < e.stop ∧
        v.edges = e := by
  unfold target?
  rw [Option.bind_eq_some_iff]
  constructor
  · rintro ⟨e, hfold, hwindow⟩
    obtain ⟨hstart, hstop⟩ := of?_eq_some_iff.mp hwindow
    exact ⟨e, hfold, hstart ▸ hstop ▸ v.start_lt_stop, by rw [edges, hstart, hstop]⟩
  · rintro ⟨_, hfold, -, rfl⟩
    exact ⟨_, hfold, of?_eq_some_iff.mpr ⟨rfl, rfl⟩⟩

/-- Tokens lead to no window iff one of them leads out of range or the last edges are not in
order. -/
theorem target?_eq_none_iff {w : Window} {set : SourceSet} {tokens : List TimeToken} :
    w.target? set tokens = none ↔
      ∀ e, tokens.foldlM (Edges.after? set) w.edges = some e → ¬e.start < e.stop := by
  unfold target?
  rw [Option.bind_eq_none_iff]
  refine forall_congr' fun e => imp_congr_right fun _ => ?_
  unfold of?
  split
  · simp_all
  · simp_all

end Window

/-! ### What is told about other things than time tokens -/

/-- A skipped token is told about by another notice than a rejection. -/
theorem TimeToken.skipNotice?_ne_windowRejected (set : SourceSet) (token : TimeToken) :
    token.skipNotice? set ≠ some .windowRejected := by
  unfold skipNotice?
  split
  · split <;> simp
  · simp
  · simp

/-- What is told about skipped tokens includes no rejection. -/
theorem Window.windowRejected_not_mem_told (w : Window) (set : SourceSet)
    (tokens : List TimeToken) : .windowRejected ∉ w.told set tokens := by
  unfold told
  simp [TimeToken.skipNotice?_ne_windowRejected]

/-- What a change of the selection tells includes no rejection. -/
theorem Selection.windowRejected_not_mem_change (s : Selection) (set : SourceSet)
    (change : SelectionChange) : .windowRejected ∉ (s.change set change).2 := by
  have hstep (forward : Bool) : .windowRejected ∉ (s.step set forward).2 := by
    unfold step
    dsimp only
    split <;> simp
  cases change with
  | select selection => simp [Selection.change]
  | next => exact hstep true
  | previous => exact hstep false

/-- What an option tells is no rejection. -/
theorem OptionChange.notice?_ne_windowRejected (change : OptionChange) :
    change.notice? ≠ some .windowRejected := by
  cases change <;> simp [notice?]

/-! ### The rest of a command -/

/-- No option reads or changes the window. -/
theorem OptionChange.foldl_apply_window (changes : List OptionChange) (c : Config) (w : Window) :
    changes.foldl apply { c with window := w } = { changes.foldl apply c with window := w } := by
  induction changes generalizing c with
  | nil => rfl
  | cons change rest ih =>
    have hfirst : change.apply { c with window := w } = { change.apply c with window := w } := by
      cases change <;> rfl
    rw [List.foldl_cons, List.foldl_cons, hfirst, ih]

/-- The window is left by all options. -/
@[simp] theorem OptionChange.window_foldl_apply (changes : List OptionChange) (c : Config) :
    (changes.foldl apply c).window = c.window := by
  have h := congrArg Config.window (foldl_apply_window changes c c.window)
  exact h

namespace Config

variable (c : Config) (set : SourceSet) (command : Command)

/-- The window is moved by the time tokens, and all else as it would be without them. -/
theorem moved_eq :
    c.moved set command =
      { c.moved set { command with times := [] } with
        window := (c.window.change set command.times).1 } := by
  unfold moved
  cases command.times with
  | nil => rw [Window.change_nil]
  | cons token rest => rfl

/-- The new window is the one that the time tokens change the old one into. -/
theorem window_update :
    (c.update set command).config.window = (c.window.change set command.times).1 := by
  rw [update_config, moved_eq]
  exact OptionChange.window_foldl_apply _ _

/-- Whether the title is due depends on other things than the window. -/
theorem titleDue_update :
    (c.update set command).config.titleDue =
      c.titleChanged (command.options.foldl OptionChange.apply
        (c.moved set { command with times := [] })) := by
  have h : (c.update set command).config.titleDue =
      c.titleChanged (command.options.foldl OptionChange.apply (c.moved set command)) := by
    unfold update moved
    cases command.selection <;> cases command.times <;> rfl
  rw [h, moved_eq, OptionChange.foldl_apply_window]
  rfl

/-- Time tokens change the window, and with it whether the time labels are due. -/
theorem config_update_eq :
    (c.update set command).config =
      { (c.update set { command with times := [] }).config with
        window := (c.update set command).config.window
        ticksDue := (c.update set command).config.ticksDue } := by
  have hwith := update_config c set command
  have hwithout := update_config c set { command with times := [] }
  rw [titleDue_update] at hwith hwithout
  rw [moved_eq, OptionChange.foldl_apply_window] at hwith
  rw [window_update, hwithout]
  exact hwith

/-- What is told about the words that come before the time tokens, by kind. -/
def noticesBeforeTimes : List Notice :=
  command.unknown.map .unknownWord ++ command.invalid.map .invalidWord ++
    match command.selection with
    | some change => (c.selection.change set change).2
    | none => []

/-- What a command tells, in order: the words it does not know, the selection, the window, the
options. -/
theorem notices_update :
    (c.update set command).notices =
      c.noticesBeforeTimes set command ++ (c.window.change set command.times).2 ++
        command.options.filterMap OptionChange.notice? := by
  unfold update noticesBeforeTimes
  cases command.selection <;> cases command.times <;> simp [Window.change_nil]

/-- A rejection is not told before the time tokens are. -/
theorem windowRejected_not_mem_noticesBeforeTimes :
    .windowRejected ∉ c.noticesBeforeTimes set command := by
  unfold noticesBeforeTimes
  cases command.selection with
  | none => simp
  | some change => simp [Selection.windowRejected_not_mem_change]

/-- What the user is told apart from the time tokens never includes a rejected window. -/
theorem windowRejected_not_mem_rest :
    .windowRejected ∉ c.noticesBeforeTimes set command ++
      command.options.filterMap OptionChange.notice? := by
  simp [windowRejected_not_mem_noticesBeforeTimes, OptionChange.notice?_ne_windowRejected]

/-- The time tokens of a command change the window together or not at all. They act on the
edges one after the other, whether or not these are in order in between. If no token leads
out of range and the last edges are in order, these are the new window. Otherwise the
window stays, and the user is told once that it was rejected. In both cases the command
does everything else as it would without its time tokens. A token that is skipped does
not move the edges, and whether it is skipped does not depend on them. -/
theorem update_window_atomic (c : Config) (set : SourceSet) (command : Command) :
    let without := c.update set { command with times := [] }
    let update := c.update set command
    let last? := command.times.foldlM (Edges.after? set) c.window.edges
    update.config = { without.config with
      window := update.config.window
      ticksDue := update.config.ticksDue } ∧
    (∃ before told after,
      without.notices = before ++ after ∧ update.notices = before ++ told ++ after ∧
      Notice.windowRejected ∉ without.notices ∧
      ((∃ e, last? = some e ∧ e.start < e.stop ∧ update.config.window.edges = e ∧
          told = command.times.filterMap (·.skipNotice? set) ∧
          Notice.windowRejected ∉ update.notices) ∨
        ((∀ e, last? = some e → ¬e.start < e.stop) ∧ update.config.window = c.window ∧
          told = (Edges.reached set c.window.edges command.times).filterMap
            (·.skipNotice? set) ++ [.windowRejected] ∧
          update.notices.count .windowRejected = 1))) ∧
    ∀ (e : Edges) (token : TimeToken) (notice : Notice),
      (e.step set token = .skipped notice ↔ token.skipNotice? set = some notice) ∧
      (token.skipNotice? set = some notice → e.after? set token = some e) := by
  intro without update last?
  have hwithout : without.notices = c.noticesBeforeTimes set command ++
      command.options.filterMap OptionChange.notice? := by
    rw [notices_update, Window.change_nil, List.append_nil]
    rfl
  have hrest : Notice.windowRejected ∉ without.notices := by
    rw [hwithout]
    exact windowRejected_not_mem_rest c set command
  have hnotices := c.notices_update set command
  have hwindow := c.window_update set command
  have htold := c.window.windowRejected_not_mem_told set command.times
  rw [Window.change_eq] at hnotices hwindow
  refine ⟨c.config_update_eq set command, ⟨_, _, _, hwithout, hnotices, hrest, ?_⟩,
    fun e token notice => ⟨e.step_eq_skipped_iff set, fun h => Edges.after?_of_skipNotice? h e⟩⟩
  rw [hwithout] at hrest
  simp only [List.mem_append, not_or] at hrest
  -- The two outcomes are those of the target.
  cases htarget : c.window.target? set command.times with
  | some changed =>
    obtain ⟨e, hlast, hordered, hedges⟩ := Window.target?_eq_some_iff.mp htarget
    rw [htarget] at hnotices hwindow
    simp only [Option.isSome_some, if_true, List.append_nil] at hnotices
    refine .inl ⟨e, hlast, hordered, ?_, ?_, ?_⟩
    · rw [hwindow, ← hedges]
      rfl
    · simp [Window.told, Edges.reached_eq_self hlast]
    · rw [hnotices]
      simp [hrest, htold]
  | none =>
    rw [htarget] at hnotices hwindow
    refine .inr ⟨Window.target?_eq_none_iff.mp htarget, hwindow, rfl, ?_⟩
    rw [hnotices]
    simp [List.count_eq_zero_of_not_mem, hrest, htold]

end Config

end SeriesPlot
