import SeriesPlot.Proofs.Session.Run

/-!
# `SeriesPlot.Proofs.Session.Delivered`: steps whose directives all arrive

If every directive reaches the plotter, no part of a step is left out. What a step does is
then a matter of the line and the session alone.

* `Session.effect`: what a line does, with one case for each kind of line. It knows of no
  faults, and `Session.perform_eq` says that a session does it if there are none.
* `Session.handle_eq_effect`: the step of a line has this effect, and the line is remembered.
  `Session.handle_eq_of_delivered` has the lines that end the session as well.
* `Session.start_eq_of_delivered`: the first step is the same in one case.

The proofs that compare two sessions, or two steps of one, compare these right-hand sides.
-/

set_option autoImplicit false

namespace SeriesPlot.Session

/-- What the user is told about a command before the state is drawn. -/
def told (s : Session) (c : Command) : String :=
  (if c.info then s.sources.summary else "") ++
    String.join ((s.config.update s.sources c).notices.map (·.text ++ "\n"))

/-- The session after a state is drawn. -/
def drawn (s : Session) (c : Config) : Session :=
  { s with
    config := c.withDue s.owed
    owed := .after (c.withDue s.owed) s.sources
    attempts := s.attempts + 1 }

/-- What the user is shown of the state after a command. -/
def shownState (s : Session) (c : Command) : String :=
  if c.hasChanges then s.config.text ++ "\n" ++ drawingText s.config s.sources else ""

/-- What a line does if every directive arrives. -/
def effect (s : Session) : Line → Progress
  | .verbatim text =>
    { session := { s with attempts := s.attempts + 1 }
      printed := "attempting to run command in gnuplot...\n"
      sent := [.verbatim text] }
  | .command c =>
    if c.hasChanges then
      let t := s.drawn (s.config.update s.sources c).config
      { session := t
        printed := s.told c ++ (t.config.text ++ "\n" ++ drawingText t.config t.sources)
        sent := [.drawing t.config t.sources] }
    else { session := s, printed := s.told c }
  | .blank => { session := s }
  | .quit => { session := s }

variable {fate : Nat → Delivery} {s : Session}

/-- A directive that arrives is sent and counted. -/
theorem send_eq_of_delivered (hfate : ∀ n, fate n = .delivered) (s : Session) (d : Directive) :
    s.send fate d = { session := { s with attempts := s.attempts + 1 }, sent := [d] } := by
  unfold send
  rw [hfate]

/-- Drawing shows the state if it is to be shown, and sends one directive for it. -/
theorem render_eq_of_delivered (hfate : ∀ n, fate n = .delivered) (s : Session) :
    s.render fate =
      { session := s.drawn s.config
        printed := drawingText (s.drawn s.config).config s.sources
        sent := [.drawing (s.drawn s.config).config s.sources] } := by
  rw [render_eq]
  show ((print _ _).andThen _) = _
  simp only [Progress.andThen, print, send_eq_of_delivered hfate, List.nil_append,
    String.append_empty]
  rfl

/-- The text of a state does not say what is due. -/
@[simp] theorem text_withDue (c : Config) (owed : Owed) : (c.withDue owed).text = c.text := rfl

/-- A line does what its kind says, with no part left out. -/
theorem perform_eq (hfate : ∀ n, fate n = .delivered) (s : Session) (line : Line) :
    s.perform fate line = s.effect line := by
  cases line with
  | blank => rfl
  | quit => rfl
  | verbatim text =>
    unfold perform
    dsimp only
    -- No part fails, so every part is followed by the next.
    simp only [Progress.andThen, printLine, print, send_eq_of_delivered hfate, List.nil_append,
      String.append_empty]
    rfl
  | command c =>
    show s.command fate c = _
    unfold command effect
    dsimp only
    split
    · simp only [Progress.andThen, printLine, print, render_eq_of_delivered hfate,
        List.nil_append, drawn, text_withDue]
      rfl
    · rfl

/-- A command with changes updates the state and draws it. -/
theorem effect_of_hasChanges {c : Command} (h : c.hasChanges = true) (s : Session) :
    s.effect (.command c) =
      let t := s.drawn (s.config.update s.sources c).config
      { session := t
        printed := s.told c ++ t.shownState c
        sent := [.drawing t.config t.sources] } := by
  unfold effect shownState
  dsimp only
  rw [if_pos h, if_pos h]

/-- A command without changes only tells the user something. -/
theorem effect_of_not_hasChanges {c : Command} (h : c.hasChanges = false) (s : Session) :
    s.effect (.command c) = { session := s, printed := s.told c } := by
  unfold effect
  exact if_neg (by simp [h])

/-- The step of a line that does not end the session is its effect, and the line is
remembered. -/
theorem handle_eq_effect (hfate : ∀ n, fate n = .delivered) {input : String}
    (hquit : Line.parse (s.resolve input) ≠ .quit) :
    s.handle fate input =
      let p := s.effect (Line.parse (s.resolve input))
      { result := .ok .goOn
        printed := p.printed
        sent := p.sent
        session := { p.session with previous := s.resolve input } } := by
  have herror : (s.effect (Line.parse (s.resolve input))).error = none := by
    unfold effect
    split
    · rfl
    · split <;> rfl
    · rfl
    · rfl
  rw [handle_eq hquit, perform_eq hfate]
  simp only [Progress.andThen, herror, remember, conclude, String.append_empty, List.append_nil]

/-- The step of any line. -/
theorem handle_eq_of_delivered (hfate : ∀ n, fate n = .delivered) (s : Session)
    (input : String) :
    s.handle fate input =
      let line := Line.parse (s.resolve input)
      { result := .ok (if line = .quit then .quit else .goOn)
        printed := (s.effect line).printed
        sent := (s.effect line).sent
        session := if line = .quit then s
          else { (s.effect line).session with previous := s.resolve input } } := by
  dsimp only
  by_cases hquit : Line.parse (s.resolve input) = .quit
  · rw [handle_eq_of_quit hquit, hquit]
    rfl
  · rw [handle_eq_effect hfate hquit, if_neg hquit, if_neg hquit]

/-- Preparing the plotter shows its lines and sends each of them. -/
theorem prepare_eq_of_delivered (hfate : ∀ n, fate n = .delivered) (s : Session)
    (lines : List String) :
    s.prepare fate lines =
      { session := { s with attempts := s.attempts + lines.length }
        printed := String.join (lines.map (· ++ "\n"))
        sent := lines.map .setup } := by
  unfold prepare
  -- The lines are sent from the left, so the progress so far is what varies.
  suffices h : ∀ p : Progress, p.error = none →
      lines.foldl (fun p line => (p.andThen (·.printLine line)).andThen
        (·.send fate (.setup line))) p =
      { session := { p.session with attempts := p.session.attempts + lines.length }
        printed := p.printed ++ String.join (lines.map (· ++ "\n"))
        sent := p.sent ++ lines.map .setup } by
    rw [h _ rfl]
    simp
  induction lines with
  | nil =>
    intro p hp
    obtain ⟨session, printed, sent, error⟩ := p
    cases hp
    simp
  | cons line rest ih =>
    intro p hp
    rw [List.foldl_cons, ih _ (by simp [Progress.andThen, hp, printLine, print,
      send_eq_of_delivered hfate])]
    simp only [Progress.andThen, hp, printLine, print, send_eq_of_delivered hfate]
    simp [String.append_assoc, Nat.add_assoc, Nat.add_comm 1]

/-- The first step tells of the sources, prepares the plotter and draws. -/
theorem start_eq_of_delivered (hfate : ∀ n, fate n = .delivered) (s : Session) :
    s.start fate =
      let prepared := { s with attempts := s.attempts + Directive.setupLines.length }
      let t := prepared.drawn s.config
      { result := .ok .goOn
        printed := s.sources.summary ++ String.join (Directive.setupLines.map (· ++ "\n")) ++
          (t.config.text ++ "\n" ++ drawingText t.config t.sources)
        sent := Directive.setupLines.map .setup ++ [.drawing t.config t.sources]
        session := t } := by
  unfold start
  dsimp only
  simp only [Progress.andThen, printLine, print, prepare_eq_of_delivered hfate,
    render_eq_of_delivered hfate, conclude, List.nil_append, List.append_nil]
  simp only [String.append_assoc]
  rfl

end SeriesPlot.Session
