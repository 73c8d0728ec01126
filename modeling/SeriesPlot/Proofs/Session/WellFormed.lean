import SeriesPlot.Proofs.Session.Run
import SeriesPlot.Proofs.Update.WellFormed

/-!
# `SeriesPlot.Proofs.Session.WellFormed`: every state of a session can be plotted

A state changes in two ways: the lines of a session are carried out on it one after the
other, or, without a session, a fold over the lines does the same. In both, what is kept
of the first state is `Config.Continues`: the state is well-formed, and it restores what
the first one restores. It needs no assumption on what becomes of the directives, since
a state is changed before it is drawn and a fault does not undo the change.

* `Config.Continues.update`: the step lemma, for the command of a line.
* `Session.Reachable.continues`: the run lemma, over all ways to reach a session by first steps
  and lines in any order.
* `Config.Continues.inUse_afterLine_restoringLine`, `Session.inUse_handle_restoringLine`: from
  every such state the three bare options bring back what was in use at first.
* `Session.wellFormed_of_reachable`: all of it, from settings that say what a session starts with.
-/

set_option autoImplicit false

namespace SeriesPlot

namespace Config

/-- The state after a line, without a session: only a command changes it. -/
def afterLine (set : SourceSet) (c : Config) (line : String) : Config :=
  match Line.parse line with
  | .command command => (c.update set command).config
  | _ => c

/-- What is kept of a first state in all later ones. -/
structure Continues (initial c : Config) : Prop where
  wellFormed : c.WellFormed
  defaults : c.defaults = initial.defaults

variable {initial c : Config}

/-- What is in use does not depend on what is due. -/
@[simp] theorem inUse_withDue (c : Config) (owed : Owed) :
    (c.withDue owed).inUse = c.inUse := rfl

/-- Becoming due changes nothing that is plotted. -/
theorem Continues.withDue (h : initial.Continues c) (owed : Owed) :
    initial.Continues (c.withDue owed) where
  wellFormed := { h.wellFormed with }
  defaults := h.defaults

/-- The step lemma: a line that is read keeps what its command is carried out on. -/
theorem Continues.update (h : initial.Continues c) (set : SourceSet) {line : String}
    {command : Command} (hline : Line.parse line = .command command) :
    initial.Continues (c.update set command).config where
  wellFormed := wellFormed_update h.wellFormed set (Line.wellFormed_of_parse hline)
  defaults := (defaults_update c set command).trans h.defaults

/-- A line without a session keeps the invariant. -/
theorem Continues.afterLine (h : initial.Continues c) (set : SourceSet) (line : String) :
    initial.Continues (c.afterLine set line) := by
  unfold Config.afterLine
  split
  · exact h.update set ‹_›
  · exact h

/-- So do some lines, one after the other. -/
theorem Continues.foldl_afterLine (h : initial.Continues c) (set : SourceSet)
    (lines : List String) : initial.Continues (lines.foldl (Config.afterLine set) c) := by
  induction lines generalizing c with
  | nil => exact h
  | cons line rest ih => exact ih (h.afterLine set line)

end Config

/-- A built state continues itself. -/
theorem Settings.continues_of_build {settings : Settings} (hsettings : settings.Admissible)
    {window : Window} {config : Config} (hbuild : settings.build window = .ok config) :
    config.Continues config :=
  ⟨wellFormed_of_build hsettings hbuild, rfl⟩

namespace Session

/-- The sessions that can follow on a session, by first steps and lines in any order and
whatever becomes of the directives. -/
inductive Reachable (s : Session) : Session → Prop
  | refl : Reachable s s
  | start {t : Session} (h : Reachable s t) (fate : Nat → Delivery) :
      Reachable s (t.start fate).session
  | handle {t : Session} (h : Reachable s t) (fate : Nat → Delivery) (input : String) :
      Reachable s (t.handle fate input).session

/-- Every session that can be reached has a state that continues the first one. -/
theorem Reachable.continues {initial : Config} {s t : Session} (h : Reachable s t)
    (hs : initial.Continues s.config) : initial.Continues t.config := by
  -- Each step leaves the state or updates it. What is due then is part of no invariant.
  induction h with
  | refl => exact hs
  | @start t _ fate ih =>
    rcases t.start_cases fate with ⟨h, -⟩ | h
    · rwa [h.config]
    · rw [h.config]
      exact ih.withDue t.owed
  | @handle t _ fate input ih =>
    rcases t.handle_cases fate input with ⟨-, h⟩ | ⟨command, hline, -, h⟩
    · rwa [h.config]
    · rw [h.config]
      exact (ih.update t.sources hline).withDue t.owed

/-- A line that is a command with changes updates the state, whatever becomes of the
directives. -/
theorem config_handle {s : Session} {input : String} {command : Command}
    (hline : Line.parse (s.resolve input) = .command command)
    (hchanges : command.hasChanges = true) (fate : Nat → Delivery) :
    (s.handle fate input).session.config =
      (s.config.update s.sources command).config.withDue s.owed := by
  rcases s.handle_cases fate input with ⟨hnone, -⟩ | ⟨command', hline', -, h⟩
  · rw [hnone command hline] at hchanges
    exact nomatch hchanges
  · rw [hline] at hline'
    cases hline'
    exact h.config

end Session

/-- The line of the three bare options that restore a value. -/
def restoringLine : String := "-style,lw,mis"

/-- The line asks for the three values to be restored and for nothing else. -/
theorem parse_restoringLine :
    Line.parse restoringLine =
      .command { options := [.resetStyle, .resetLineWidth, .resetMissing] } := by
  decide

/-- Without a session, the line brings back what the first state restores. -/
theorem Config.Continues.inUse_afterLine_restoringLine {initial c : Config}
    (h : initial.Continues c) (set : SourceSet) :
    (c.afterLine set restoringLine).inUse = initial.defaults := by
  unfold Config.afterLine
  rw [parse_restoringLine, ← h.defaults]
  exact inUse_update_of_restores c set rfl

/-- In a session it does so too, whatever becomes of the directives. -/
theorem Session.inUse_handle_restoringLine {initial : Config} {s : Session}
    (h : initial.Continues s.config) (fate : Nat → Delivery) :
    (s.handle fate restoringLine).session.config.inUse = initial.defaults := by
  have hresolve : s.resolve restoringLine = restoringLine := if_neg (by decide)
  rw [config_handle (hresolve ▸ parse_restoringLine) rfl, Config.inUse_withDue, ← h.defaults]
  exact Config.inUse_update_of_restores s.config s.sources rfl

/-- Every state that lines lead to, from a built one, can be plotted, and it still restores
what was in use at first: the bare options bring the style, the line width and the test
for missing values back to what they were. It is so with and without a session around the
state, and in a session whatever becomes of the directives. -/
theorem Session.wellFormed_of_reachable {settings : Settings}
    (hsettings : settings.Admissible) {window : Window} {config : Config}
    (hbuild : settings.build window = .ok config) (set : SourceSet) :
    (∀ lines : List String,
      let c := lines.foldl (Config.afterLine set) config
      c.WellFormed ∧ c.defaults = config.defaults ∧
        (c.afterLine set restoringLine).inUse = config.inUse) ∧
    ∀ t : Session, Reachable { sources := set, config } t →
      t.config.WellFormed ∧ t.config.defaults = config.defaults ∧
        ∀ fate, (t.handle fate restoringLine).session.config.inUse = config.inUse := by
  -- What is restored is what is in use at first, and that is never touched.
  have hinitial := Settings.continues_of_build hsettings hbuild
  obtain ⟨-, -, -, -, hinUse, -⟩ := Settings.of_build hbuild
  rw [← hinUse]
  constructor
  · intro lines
    have h := hinitial.foldl_afterLine set lines
    exact ⟨h.wellFormed, h.defaults, h.inUse_afterLine_restoringLine set⟩
  · intro t ht
    have h : config.Continues t.config := ht.continues hinitial
    exact ⟨h.wellFormed, h.defaults, fun fate => Session.inUse_handle_restoringLine h fate⟩

/-- A state with a style, a line width and a test of its own gets them back after they
have been changed. -/
theorem Session.wellFormed_of_reachable_with_settings :
    let settings : Settings := {
      selection := some (.ofItems [⟨some 'a', some 3⟩, ⟨some 'a', none⟩])
      style := some (.other "filledcurves")
      lineWidth := some 2
      missing := some ⟨.atMost, "-999"⟩ }
    settings.Admissible ∧
      ∃ config, settings.build Session.sample.config.window = .ok config ∧
        (["vn y1:2", "-style=dots,lw=4,mis=7"].foldl (Config.afterLine sample.sources)
          config).WellFormed ∧
        ((["vn y1:2", "-style=dots,lw=4,mis=7"].foldl (Config.afterLine sample.sources)
          config).afterLine sample.sources restoringLine).inUse =
          ⟨.other "filledcurves", 2, some ⟨.atMost, "-999"⟩⟩ := by
  intro settings
  have hsettings : settings.Admissible := by
    refine ⟨?_, ?_, ?_⟩
    · rintro _ ⟨⟩
      exact ⟨_, List.cons_ne_nil _ _, rfl⟩
    · rintro _ ⟨⟩
      decide
    · rintro _ ⟨⟩
      exact ⟨"<= -999 ", by decide⟩
  have hpositive : (2 : Binary64).isPositive = true := by decide +kernel
  obtain ⟨config, hbuild⟩ :=
    Settings.exists_build_eq_ok (s := settings) hpositive Session.sample.config.window
  obtain ⟨-, -, -, hinUse, -, -⟩ := Settings.of_build hbuild
  -- The restoring line puts back what was in use at first, and that is what was set.
  obtain ⟨hlines, -⟩ := wellFormed_of_reachable hsettings hbuild sample.sources
  obtain ⟨hwellFormed, -, hrestored⟩ := hlines ["vn y1:2", "-style=dots,lw=4,mis=7"]
  exact ⟨hsettings, config, hbuild, hwellFormed, hrestored.trans hinUse⟩

end SeriesPlot
