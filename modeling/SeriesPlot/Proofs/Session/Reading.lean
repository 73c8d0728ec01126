import SeriesPlot.Proofs.Command.Parse
import SeriesPlot.Proofs.Session.Step

/-!
# `SeriesPlot.Proofs.Session.Reading`: how a step reads and remembers its line

A step depends on its line only by what the line is read as, and it remembers the line iff the
session goes on after it.

* `Session.handle_congr`: lines that are read as the same do the same, apart from which of them
  is remembered.
* `Session.previous_handle`: what is remembered after a step. None of the parts of a step reads or
  changes it, so there is a lemma for each part.
* `Session.repeatable_handle`: the line that a blank one repeats is always one that does not end
  the session and is not blank itself (`Line.Repeatable`). So a blank line never ends it either.
-/

set_option autoImplicit false

namespace SeriesPlot

/-- A step without a fault after which the session goes on. -/
def Outcome.goesOn (o : Outcome) : Bool :=
  match o.result with
  | .ok .goOn => true
  | _ => false

/-- A line that is there to be repeated: it is not blank, and it does not end the session. -/
def Line.Repeatable (line : String) : Prop := parse line ≠ .blank ∧ parse line ≠ .quit

namespace Session

variable {s : Session} {fate : Nat → Delivery}

/-- A line that is not blank stands for itself. -/
theorem resolve_eq_self {line : String} (h : Line.parse line ≠ .blank) :
    s.resolve line = line :=
  if_neg (mt Line.parse_eq_blank_iff.mpr h)

/-- Lines that are read as the same do the same, apart from which of them is remembered. -/
theorem handle_congr {line line' : String} (hparse : Line.parse line' = Line.parse line)
    (hline : Line.parse line ≠ .blank) :
    (s.handle fate line').result = (s.handle fate line).result ∧
      (s.handle fate line').printed = (s.handle fate line).printed ∧
      (s.handle fate line').sent = (s.handle fate line).sent ∧
      (s.handle fate line').session = { (s.handle fate line).session with
        previous := (s.handle fate line').session.previous } := by
  have hresolve : s.resolve line = line := resolve_eq_self hline
  have hresolve' : s.resolve line' = line' := resolve_eq_self (by rwa [hparse])
  have hread : Line.parse (s.resolve line') = Line.parse (s.resolve line) := by
    rw [hresolve, hresolve', hparse]
  -- A quitting line leaves the session as it is; any other is remembered in its own words.
  by_cases hquit : Line.parse (s.resolve line) = .quit
  · rw [handle_eq_of_quit hquit, handle_eq_of_quit (hread.trans hquit)]
    exact ⟨rfl, rfl, rfl, rfl⟩
  · have hquit' : Line.parse (s.resolve line') ≠ .quit := by rwa [hread]
    rw [handle_eq hquit, handle_eq hquit', hread, hresolve, hresolve']
    generalize s.perform fate (Line.parse line) = p
    obtain ⟨session, printed, sent, error⟩ := p
    cases error with
    | some e => exact ⟨rfl, rfl, rfl, rfl⟩
    | none => exact ⟨rfl, rfl, rfl, rfl⟩

/-! ### What is remembered -/

/-- Two parts of a step keep the line to repeat if both do. -/
theorem previous_andThen {p : Progress} {next : Session → Progress}
    (hp : p.session.previous = s.previous)
    (hnext : ∀ t, (next t).session.previous = t.previous) :
    (p.andThen next).session.previous = s.previous := by
  unfold Progress.andThen
  split
  · exact hp
  · exact (hnext p.session).trans hp

/-- Sending keeps it. -/
theorem previous_send (s : Session) (d : Directive) :
    (s.send fate d).session.previous = s.previous := by
  rw [send_session]

/-- Drawing keeps it. -/
theorem previous_render (s : Session) : (s.render fate).session.previous = s.previous := by
  rw [render_eq]
  exact previous_andThen rfl fun t => previous_send t _

/-- A command keeps it. The line is remembered when its step is over. -/
theorem previous_command (s : Session) (c : Command) :
    (s.command fate c).session.previous = s.previous := by
  unfold command
  dsimp only
  split
  · exact previous_andThen rfl fun t => previous_andThen rfl previous_render
  · rfl

/-- Carrying out a line remembers nothing yet. -/
theorem previous_perform (s : Session) (fate : Nat → Delivery) (line : Line) :
    (s.perform fate line).session.previous = s.previous := by
  cases line with
  | blank => rfl
  | quit => rfl
  | verbatim text => exact previous_andThen rfl fun t => previous_send t _
  | command c => exact previous_command s c

/-- Preparing the plotter keeps it. -/
theorem previous_prepare (s : Session) (fate : Nat → Delivery) (lines : List String) :
    (s.prepare fate lines).session.previous = s.previous := by
  unfold prepare
  -- The lines are sent from the left, so the progress so far is what varies.
  suffices h : ∀ p : Progress, p.session.previous = s.previous →
      (lines.foldl (fun p line => (p.andThen (·.printLine line)).andThen
        (·.send fate (.setup line))) p).session.previous = s.previous from h _ rfl
  induction lines with
  | nil => exact fun p hp => hp
  | cons line rest ih =>
    intro p hp
    exact ih _ (previous_andThen (previous_andThen hp fun _ => rfl) fun t => previous_send t _)

/-- There is no line to remember in the first step. -/
theorem previous_start (s : Session) (fate : Nat → Delivery) :
    (s.start fate).session.previous = s.previous := by
  refine previous_andThen (previous_andThen ?_ fun _ => rfl) previous_render
  exact previous_andThen rfl fun t => t.previous_prepare fate _

/-- A line is remembered iff the session goes on after it. -/
theorem previous_handle (s : Session) (fate : Nat → Delivery) (input : String) :
    (s.handle fate input).session.previous =
      if (s.handle fate input).goesOn then s.resolve input else s.previous := by
  by_cases hquit : Line.parse (s.resolve input) = .quit
  · rw [handle_eq_of_quit hquit]
    rfl
  · rw [handle_eq hquit]
    have hperform := s.previous_perform fate (Line.parse (s.resolve input))
    generalize s.perform fate (Line.parse (s.resolve input)) = p at hperform
    obtain ⟨session, printed, sent, error⟩ := p
    -- After a fault the part of the step that remembers the line is left out.
    cases error with
    | some e => exact hperform
    | none => rfl

/-- The session does not go on after a line that ends it. -/
theorem goesOn_handle_of_quit {input : String} (h : Line.parse (s.resolve input) = .quit) :
    (s.handle fate input).goesOn = false := by
  rw [handle_eq_of_quit h]
  rfl

/-- A step ends the session only for a line that does. -/
theorem result_handle_ne_quit {input : String} (h : Line.parse (s.resolve input) ≠ .quit) :
    (s.handle fate input).result ≠ .ok .quit := by
  rw [handle_eq h]
  unfold conclude
  dsimp only
  split <;> exact nofun

/-- A line stands for one that is not blank. -/
theorem parse_resolve_ne_blank (hprevious : Line.Repeatable s.previous) (input : String) :
    Line.parse (s.resolve input) ≠ .blank := by
  unfold resolve
  split
  · exact hprevious.1
  · exact mt Line.parse_eq_blank_iff.mp ‹_›

/-- What is remembered can be repeated, whatever the line and whatever becomes of it. -/
theorem repeatable_handle (hprevious : Line.Repeatable s.previous) (input : String) :
    Line.Repeatable (s.handle fate input).session.previous := by
  rw [previous_handle]
  split
  case isFalse => exact hprevious
  case isTrue hgoesOn =>
    refine ⟨parse_resolve_ne_blank hprevious input, fun hquit => ?_⟩
    rw [goesOn_handle_of_quit hquit] at hgoesOn
    exact nomatch hgoesOn

end Session

end SeriesPlot
