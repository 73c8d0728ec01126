import SeriesPlot.Proofs.Directive.Title
import SeriesPlot.Proofs.Update.Window

/-!
# `SeriesPlot.Proofs.Update.Sequence`: time tokens on one line or on several

The time tokens of a command act one after the other on the edges that the one before has
left. If those of a first command leave a window, a second command starts from just the
edges that its tokens would start from as the rest of the first (`Window.target?_append`,
`Window.told_append`). No token reads the window that the line starts from, and none reads
its mark, which does depend on the rest of the line (`Window.change_congr`).

* `Config.windowRejected_not_mem_update_iff`: time tokens are accepted iff they lead to a window.
  Whether the user is told of a rejection is the same question, as nothing else tells of one.
* `Config.update_eq`, `Config.ticksDue_update`: what is due is worked out from the states before and
  after, so it is the one thing that can differ between one line and two.
* `Config.update_times_append`: acceptance, window, state and notices of one line and of two.
-/

set_option autoImplicit false

namespace SeriesPlot

/-- A time token without the mark that depends on the rest of its line. -/
def TimeToken.unmarked : TimeToken → TimeToken
  | .shift s => .shift { s with stopAnchored := false }
  | token => token

namespace Edges

/-- The mark of a token is not read by its step. -/
theorem step_unmarked (e : Edges) (set : SourceSet) (token : TimeToken) :
    e.step set token.unmarked = e.step set token := by
  cases token with
  | shift s => rfl
  | _ => rfl

/-- The marks of tokens are not read by their run. -/
theorem run_map_unmarked (e : Edges) (set : SourceSet) (tokens : List TimeToken) :
    e.run set (tokens.map TimeToken.unmarked) = e.run set tokens := by
  induction tokens generalizing e with
  | nil => rfl
  | cons token rest ih =>
    rw [List.map_cons]
    unfold run
    simp only [step_unmarked, ih]

/-- If some tokens lead somewhere, all of them are reached, and the tokens after them go on
from there. -/
theorem reached_append {set : SourceSet} {e last : Edges} {first : List TimeToken}
    (h : first.foldlM (after? set) e = some last) (second : List TimeToken) :
    reached set e (first ++ second) = first ++ reached set last second := by
  induction first generalizing e with
  | nil =>
    cases h
    rfl
  | cons token rest ih =>
    rw [List.foldlM_cons] at h
    obtain ⟨moved, hafter, hrest⟩ := Option.bind_eq_some_iff.mp h
    rw [List.cons_append, reached, hafter]
    exact congrArg (token :: ·) (ih hrest)

end Edges

namespace Window

variable {w v : Window} {set : SourceSet} {first : List TimeToken}

/-- The marks of tokens have no effect. -/
theorem change_congr {tokens tokens' : List TimeToken}
    (h : tokens.map TimeToken.unmarked = tokens'.map TimeToken.unmarked) :
    w.change set tokens = w.change set tokens' := by
  unfold change
  rw [← Edges.run_map_unmarked, h, Edges.run_map_unmarked]

/-- Tokens that lead to a window can be given first, the others from that window on. -/
theorem target?_append (h : w.target? set first = some v) (second : List TimeToken) :
    w.target? set (first ++ second) = v.target? set second := by
  obtain ⟨e, hfold, -, rfl⟩ := target?_eq_some_iff.mp h
  unfold target?
  rw [List.foldlM_append, hfold]
  rfl

/-- A single token leads to a window if it leaves edges that are those of one. -/
theorem target?_singleton {token : TimeToken} :
    w.target? set [token] = some v ↔ w.edges.after? set token = some v.edges := by
  have hfold : [token].foldlM (Edges.after? set) w.edges = w.edges.after? set token := by simp
  rw [target?_eq_some_iff, hfold]
  constructor
  · rintro ⟨e, hafter, -, rfl⟩
    exact hafter
  · exact fun hafter => ⟨_, hafter, v.start_lt_stop, rfl⟩

/-- What is told about tokens given in two parts is told about the one part and then about the
other. -/
theorem told_append (h : w.target? set first = some v) (second : List TimeToken) :
    w.told set (first ++ second) = w.told set first ++ v.told set second := by
  obtain ⟨e, hfold, -, rfl⟩ := target?_eq_some_iff.mp h
  unfold told
  rw [Edges.reached_append hfold, Edges.reached_eq_self hfold, List.filterMap_append]

/-- The user is told about a rejected window iff the tokens lead to none. -/
theorem windowRejected_not_mem_change_iff {tokens : List TimeToken} :
    .windowRejected ∉ (w.change set tokens).2 ↔ ∃ v, w.target? set tokens = some v := by
  rw [change_eq, ← Option.isSome_iff_exists]
  cases (w.target? set tokens).isSome with
  | true => simp [windowRejected_not_mem_told]
  | false => simp

end Window

namespace Config

variable (c : Config) (set : SourceSet)

/-- A command of time tokens only tells of these. -/
theorem notices_update_times (tokens : List TimeToken) :
    (c.update set { times := tokens }).notices = (c.window.change set tokens).2 := by
  rw [notices_update]
  simp [noticesBeforeTimes]

/-- The time tokens of a command are accepted iff they lead to a window, whatever else the
command asks for. -/
theorem windowRejected_not_mem_update_iff (command : Command) :
    .windowRejected ∉ (c.update set command).notices ↔
      ∃ v, c.window.target? set command.times = some v := by
  have hrest := c.windowRejected_not_mem_rest set command
  rw [List.mem_append, not_or] at hrest
  rw [← Window.windowRejected_not_mem_change_iff, notices_update]
  simp [hrest]

/-- The window that the tokens of a command lead to is the new one. -/
theorem window_update_of_target? {command : Command} {v : Window}
    (h : c.window.target? set command.times = some v) :
    (c.update set command).config.window = v := by
  rw [window_update, Window.change_eq, h]
  rfl

/-- Time tokens that are rejected leave the old window. -/
theorem window_update_of_rejected {command : Command}
    (h : .windowRejected ∈ (c.update set command).notices) :
    (c.update set command).config.window = c.window := by
  have hnone : c.window.target? set command.times = none := by
    rw [Option.eq_none_iff_forall_ne_some]
    intro v htarget
    exact (c.windowRejected_not_mem_update_iff set command).mpr ⟨v, htarget⟩ h
  rw [window_update, Window.change_eq, hnone]
  rfl

/-- A command whose only time token is skipped tells of that, and keeps the window. -/
theorem update_of_skipNotice? {command : Command} {token : TimeToken} {notice : Notice}
    (htimes : command.times = [token]) (h : token.skipNotice? set = some notice) :
    notice ∈ (c.update set command).notices ∧
      .windowRejected ∉ (c.update set command).notices ∧
      (c.update set command).config.window = c.window := by
  have hafter : c.window.edges.after? set token = some c.window.edges :=
    Edges.after?_of_skipNotice? h _
  have htarget : c.window.target? set command.times = some c.window := by
    rw [htimes]
    exact Window.target?_singleton.mpr hafter
  refine ⟨?_, (c.windowRejected_not_mem_update_iff set command).mpr ⟨_, htarget⟩,
    c.window_update_of_target? set htarget⟩
  -- The fold stays at the edges of the window, so the token is reached.
  have htold : c.window.told set command.times = [notice] := by
    have hfold : [token].foldlM (Edges.after? set) c.window.edges = some c.window.edges := by
      simp [hafter]
    rw [Window.told, htimes, Edges.reached_eq_self hfold]
    simp [h]
  rw [notices_update, Window.change_eq, htold]
  simp

/-- A command of time tokens alone is accepted iff they lead to a window. -/
theorem windowRejected_not_mem_update_times_iff {tokens : List TimeToken} :
    .windowRejected ∉ (c.update set { times := tokens }).notices ↔
      ∃ v, c.window.target? set tokens = some v :=
  c.windowRejected_not_mem_update_iff set { times := tokens }

variable {c set} in
/-- The window that accepted tokens lead to is the new one, and the user is told about those
of them that are skipped. -/
theorem update_times_of_target? {tokens : List TimeToken} {v : Window}
    (h : c.window.target? set tokens = some v) :
    (c.update set { times := tokens }).config.window = v ∧
      (c.update set { times := tokens }).notices = c.window.told set tokens := by
  rw [window_update, notices_update_times, Window.change_eq, h]
  exact ⟨rfl, List.append_nil _⟩

/-- A command of time tokens only changes the window, and nothing is due for it but the
time labels. -/
theorem config_update_times (tokens : List TimeToken) :
    (c.update set { times := tokens }).config =
      { c with
        window := (c.update set { times := tokens }).config.window
        titleDue := false
        ticksDue := (c.update set { times := tokens }).config.ticksDue } := by
  have htitle : (c.update set { times := tokens }).config.titleDue = false := by
    rw [titleDue_update]
    simp [titleChanged, moved]
  rw [window_update, update_config, moved_eq, htitle]
  rfl

/-- A command moves, then sets its options, then works out what is due from the states before and
after. -/
theorem update_eq (command : Command) :
    c.update set command =
      let changed := command.options.foldl OptionChange.apply (c.moved set command)
      { config := { changed with
          titleDue := c.titleChanged changed
          ticksDue := c.ticksChanged changed }
        notices := (c.update set command).notices } := by
  unfold update moved
  cases command.selection <;> cases command.times <;> rfl

/-- Whether the time labels are due can be told from the states before and after. -/
theorem ticksDue_update (command : Command) :
    (c.update set command).config.ticksDue =
      c.ticksChanged (c.update set command).config := by
  rw [update_eq]
  rfl

/-- The marks of tokens have no effect on what a command does. -/
theorem update_congr (command : Command) {tokens : List TimeToken}
    (h : tokens.map TimeToken.unmarked = command.times.map TimeToken.unmarked) :
    c.update set { command with times := tokens } = c.update set command := by
  have hchange : c.window.change set tokens = c.window.change set command.times :=
    Window.change_congr h
  have hmoved : c.moved set { command with times := tokens } = c.moved set command := by
    rw [moved_eq, moved_eq c set command, hchange]
  have hnotices : (c.update set { command with times := tokens }).notices =
      (c.update set command).notices := by
    rw [notices_update, notices_update, hchange]
    rfl
  rw [update_eq, update_eq c set command, hmoved, hnotices]

/-- Time tokens do on one line what they do on two. If the first ones are accepted by
themselves, the whole line is accepted iff the other ones are accepted after them. Then the
state is the same, except for whether the time labels are due again, and the user is told
the same. The marks that tokens get for the rest of their line can differ: they have no
effect on anything. -/
theorem update_times_append (c : Config) (set : SourceSet) {first second whole : List TimeToken}
    (hwhole : whole.map TimeToken.unmarked = (first ++ second).map TimeToken.unmarked)
    (haccepted : .windowRejected ∉ (c.update set { times := first }).notices) :
    let one := c.update set { times := whole }
    let before := c.update set { times := first }
    let after := before.config.update set { times := second }
    (.windowRejected ∉ one.notices ↔ .windowRejected ∉ after.notices) ∧
      (.windowRejected ∉ one.notices →
        one.config.window = after.config.window ∧
          one.config = { after.config with ticksDue := one.config.ticksDue } ∧
          one.notices = before.notices ++ after.notices) ∧
      ∀ (command : Command) (tokens : List TimeToken),
        tokens.map TimeToken.unmarked = command.times.map TimeToken.unmarked →
          c.update set { command with times := tokens } = c.update set command := by
  intro one before after
  have hone : one = c.update set { times := first ++ second } :=
    c.update_congr set { times := first ++ second } hwhole
  obtain ⟨v, hfirst⟩ := (c.windowRejected_not_mem_update_times_iff set).mp haccepted
  obtain ⟨hbefore, htoldFirst⟩ := update_times_of_target? hfirst
  -- The second part of the fold starts from the window that the first one leads to.
  have htarget : c.window.target? set (first ++ second) =
      before.config.window.target? set second := by
    rw [hbefore]
    exact Window.target?_append hfirst second
  have hiff : .windowRejected ∉ one.notices ↔ .windowRejected ∉ after.notices := by
    rw [hone, windowRejected_not_mem_update_times_iff, windowRejected_not_mem_update_times_iff,
      htarget]
  refine ⟨hiff, fun hnot => ?_, fun command tokens => c.update_congr set command⟩
  obtain ⟨u, hsecond⟩ :=
    (before.config.windowRejected_not_mem_update_times_iff set).mp (hiff.mp hnot)
  obtain ⟨hafter, htoldSecond⟩ := update_times_of_target? hsecond
  obtain ⟨hboth, htoldBoth⟩ := update_times_of_target? (htarget.trans hsecond)
  have hwindow : one.config.window = after.config.window := by
    rw [hone, hboth, hafter]
  refine ⟨hwindow, ?_, ?_⟩
  · -- All that the three commands change is the window and what is due.
    have hbefore' : before.config = { c with
        window := before.config.window
        titleDue := false
        ticksDue := before.config.ticksDue } := c.config_update_times set first
    have hafter' : after.config = { before.config with
        window := after.config.window
        titleDue := false
        ticksDue := after.config.ticksDue } := before.config.config_update_times set second
    calc one.config
      _ = { c with
            window := one.config.window
            titleDue := false
            ticksDue := one.config.ticksDue } := by
          rw [hone]
          exact c.config_update_times set (first ++ second)
      _ = { before.config with
            window := after.config.window
            titleDue := false
            ticksDue := one.config.ticksDue } := by rw [hwindow, hbefore']
      _ = { after.config with ticksDue := one.config.ticksDue } := by rw [hafter']
  · calc one.notices
      _ = c.window.told set (first ++ second) := by rw [hone, htoldBoth]
      _ = c.window.told set first ++ v.told set second := Window.told_append hfirst second
      _ = before.notices ++ after.notices := by rw [htoldFirst, htoldSecond, hbefore]

/-- A stop, and then a width around the middle and a move on. As typed on one line, the width
is marked for the stop before it. -/
theorem update_times_append_of_marked_width :
    let c := pairOfFiles.config [⟨some 'a', some 2⟩]
    let shift (word : String) (direction : Direction) (hours : Binary64) (marked : Bool) :=
      TimeToken.shift { word, direction, intensity := 1, magnitude := some hours,
                        unit := some .hour, pin := .free, stopAnchored := marked }
    let first := [TimeToken.stop ⟨1370131200000, by decide, by decide⟩]
    let second := [shift "3h" .resize 3 false, shift ">2h" .forward 2 false]
    let whole := first ++ [shift "3h" .resize 3 true, shift ">2h" .forward 2 false]
    Line.parse "e2013-06-02" = .command { times := first } ∧
      Line.parse "3h >2h" = .command { times := second } ∧
      Line.parse "e2013-06-02 3h >2h" = .command { times := whole } ∧
      .windowRejected ∉ (c.update pairOfFiles { times := first }).notices ∧
      (c.update pairOfFiles { times := whole }).config.window =
        ((c.update pairOfFiles { times := first }).config.update pairOfFiles
          { times := second }).config.window := by
  intro c shift first second whole
  have haccepted : .windowRejected ∉ (c.update pairOfFiles { times := first }).notices := by
    decide +kernel
  have hwhole : whole.map TimeToken.unmarked = (first ++ second).map TimeToken.unmarked := rfl
  -- The one line has a mark more than the two, and leads to the same window.
  obtain ⟨-, hsame, -⟩ := update_times_append c pairOfFiles hwhole haccepted
  have hnot : .windowRejected ∉ (c.update pairOfFiles { times := whole }).notices := by
    decide +kernel
  exact ⟨by decide +kernel, by decide +kernel, by decide +kernel, haccepted, (hsame hnot).1⟩

end Config

end SeriesPlot
