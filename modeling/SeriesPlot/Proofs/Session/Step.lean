import SeriesPlot.Session

/-!
# `SeriesPlot.Proofs.Session.Step`: what one step of a session does

Seen from the plotter, a step of a session does one of two things. It leaves the
plot alone: the state and the debts stay, and no plot is sent (`Untouched`). Or it
redraws a state: the debts become due, what is still not drawn is owed, and the
plot is the last directive that the step sends (`Redrawn`).

* `start_cases`: the first step redraws the state it is given, unless preparing
  the plotter fails.
* `handle_cases`: the step of a line redraws the updated state if the line is a
  command with changes. All other lines leave the plot alone.

Both hold whatever becomes of the directives. They say all that the proofs about the plotter need
to know of a step, so none of these opens the definition of one. Parts of a step that leave the
plot alone do so together (`Untouched.andThen`), and one of them before or after a redrawing makes
no difference to it (`Untouched.redrawn`, `Redrawn.andThen_remember`). So each part has one lemma.
-/

set_option autoImplicit false

namespace SeriesPlot

/-- The state with some debts due. -/
def Config.withDue (c : Config) (owed : Owed) : Config :=
  { c with
    titleDue := c.titleDue || owed.title
    ticksDue := c.ticksDue || owed.ticks }

/-- The debts after a state is drawn: none after a plot, and whatever is due if
there is nothing to plot. -/
def Owed.after (c : Config) (set : SourceSet) : Owed :=
  match Plot.ofConfig? c set with
  | some _ => {}
  | none => { title := c.titleDue, ticks := c.ticksDue }

/-- The directive that draws a state, the empty one if there is nothing to plot. -/
def Directive.drawing (c : Config) (set : SourceSet) : Directive :=
  match Plot.ofConfig? c set with
  | some p => .plot p
  | none => .empty

/-- What draws a state is a plot iff the state can be plotted. -/
theorem Directive.drawing_eq_plot_iff {c : Config} {set : SourceSet} {p : Plot} :
    drawing c set = .plot p ↔ Plot.ofConfig? c set = some p := by
  unfold drawing
  cases Plot.ofConfig? c set with
  | none => simp
  | some q => simp

/-- What the user is shown when a state is drawn. -/
def Session.drawingText (c : Config) (set : SourceSet) : String :=
  match Plot.ofConfig? c set with
  | some p => echoText c p
  | none => Notice.noFileExists.text ++ "\n"

/-- A step without a fault. -/
def Outcome.succeeded (o : Outcome) : Bool :=
  match o.result with
  | .ok _ => true
  | .error _ => false

namespace Session

/-- From `s` to `t` the plot stays as it is, and `sent` has no plot. -/
structure Untouched (s t : Session) (sent : List Directive) : Prop where
  sources : t.sources = s.sources
  config : t.config = s.config
  owed : t.owed = s.owed
  no_plot : ∀ p, .plot p ∉ sent

/-- From `s` to `t` the state `c` is drawn with the debts of `s` due. If the step
succeeds, its last directive draws the state. If it fails, no plot is sent. -/
structure Redrawn (s : Session) (c : Config) (t : Session) (sent : List Directive)
    (succeeded : Bool) : Prop where
  sources : t.sources = s.sources
  config : t.config = c.withDue s.owed
  owed : t.owed = Owed.after t.config t.sources
  sent : ∃ earlier, (∀ p, .plot p ∉ earlier) ∧
    sent = earlier ++ if succeeded then [.drawing t.config t.sources] else []

/-! ### Parts of a step -/

/-- Doing nothing leaves the plot alone. -/
theorem Untouched.refl (s : Session) : Untouched s s [] := ⟨rfl, rfl, rfl, by simp⟩

/-- Leaving the plot alone twice leaves it alone. -/
theorem Untouched.trans {s t u : Session} {first second : List Directive}
    (h : Untouched s t first) (h' : Untouched t u second) :
    Untouched s u (first ++ second) where
  sources := h'.sources.trans h.sources
  config := h'.config.trans h.config
  owed := h'.owed.trans h.owed
  no_plot p hp := (List.mem_append.mp hp).elim (h.no_plot p) (h'.no_plot p)

/-- Two parts that leave the plot alone do so together, whether or not the first
ends the step. -/
theorem Untouched.andThen {s : Session} {p : Progress} {next : Session → Progress}
    (h : Untouched s p.session p.sent)
    (hnext : ∀ t, Untouched t (next t).session (next t).sent) :
    Untouched s (p.andThen next).session (p.andThen next).sent := by
  unfold Progress.andThen
  split
  · exact h
  · exact h.trans (hnext p.session)

/-- Printing leaves the plot alone. -/
theorem untouched_print (s : Session) (text : String) :
    Untouched s (s.print text).session (s.print text).sent := Untouched.refl s

/-- Sending only counts the attempt, also if it fails. -/
@[simp] theorem send_session (s : Session) (fate : Nat → Delivery) (d : Directive) :
    (s.send fate d).session = { s with attempts := s.attempts + 1 } := by
  unfold send
  cases fate s.attempts with
  | delivered => rfl
  | closed => rfl
  | failed => rfl

/-- A directive reaches the plotter iff sending it is no fault. -/
theorem send_sent (s : Session) (fate : Nat → Delivery) (d : Directive) :
    (s.send fate d).sent = if (s.send fate d).error.isNone then [d] else [] := by
  unfold send
  cases fate s.attempts with
  | delivered => rfl
  | closed => rfl
  | failed => rfl

/-- Sending anything but a plot leaves the plot alone. -/
theorem untouched_send (s : Session) (fate : Nat → Delivery) (d : Directive)
    (hd : ∀ p, d ≠ .plot p) :
    Untouched s (s.send fate d).session (s.send fate d).sent := by
  rw [send_session, send_sent]
  refine ⟨rfl, rfl, rfl, fun p hp => ?_⟩
  split at hp
  · exact hd p (List.mem_singleton.mp hp).symm
  · exact nomatch hp

/-- Preparing the plotter leaves the plot alone. -/
theorem untouched_prepare (s : Session) (fate : Nat → Delivery) (lines : List String) :
    Untouched s (s.prepare fate lines).session (s.prepare fate lines).sent := by
  unfold prepare
  -- The lines are sent from the left, so the progress so far is what varies.
  suffices h : ∀ p : Progress, Untouched s p.session p.sent →
      Untouched s (lines.foldl (fun p line => (p.andThen (·.printLine line)).andThen
        (·.send fate (.setup line))) p).session
        (lines.foldl (fun p line => (p.andThen (·.printLine line)).andThen
        (·.send fate (.setup line))) p).sent from
    h _ (Untouched.refl s)
  induction lines with
  | nil => intro p hp; exact hp
  | cons line rest ih =>
    intro p hp
    exact ih _ ((hp.andThen fun t => untouched_print t _).andThen
      fun t => untouched_send t fate (.setup line) (by simp))

/-- A redrawing after a part that leaves the plot alone. -/
theorem Untouched.redrawn {s t u : Session} {c : Config} {first second : List Directive}
    {succeeded : Bool} (h : Untouched s t first) (h' : Redrawn t c u second succeeded) :
    Redrawn s c u (first ++ second) succeeded where
  sources := h'.sources.trans h.sources
  config := h'.config.trans (by rw [h.owed])
  owed := h'.owed
  sent := by
    obtain ⟨earlier, hearlier, hsent⟩ := h'.sent
    refine ⟨first ++ earlier, fun p hp => ?_, by rw [hsent, List.append_assoc]⟩
    exact (List.mem_append.mp hp).elim (h.no_plot p) (hearlier p)

/-- Drawing shows and sends one directive, or tells the user that there is nothing to plot
and sends the empty one. -/
theorem render_eq (s : Session) (fate : Nat → Delivery) :
    s.render fate =
      (print { s.withOwedDue with
          owed := .after s.withOwedDue.config s.withOwedDue.sources }
        (drawingText s.withOwedDue.config s.withOwedDue.sources)).andThen
        (·.send fate (.drawing s.withOwedDue.config s.withOwedDue.sources)) := by
  unfold render Owed.after Directive.drawing drawingText
  dsimp only
  cases Plot.ofConfig? s.withOwedDue.config s.withOwedDue.sources with
  | some p => rfl
  | none => rfl

/-- A plot that a redrawing sends is the plot of the state, and it is sent last. -/
theorem Redrawn.of_plot_mem {s t : Session} {c : Config} {sent : List Directive}
    {succeeded : Bool} {p : Plot} (h : Redrawn s c t sent succeeded) (hp : .plot p ∈ sent) :
    Plot.ofConfig? t.config t.sources = some p ∧ t.owed = {} ∧
      sent.getLast? = some (.plot p) := by
  obtain ⟨earlier, hearlier, rfl⟩ := h.sent
  cases succeeded with
  | false => exact absurd (by simpa using hp) (hearlier p)
  | true =>
    simp only [if_true, List.mem_append, List.mem_singleton] at hp ⊢
    have hdrawing := hp.resolve_left (hearlier p)
    have hplot : Plot.ofConfig? t.config t.sources = some p :=
      Directive.drawing_eq_plot_iff.mp hdrawing.symm
    refine ⟨hplot, by rw [h.owed, Owed.after, hplot], ?_⟩
    rw [List.getLast?_concat, hdrawing]

/-- `render` redraws the state of the session. -/
theorem redrawn_render (s : Session) (fate : Nat → Delivery) :
    Redrawn s s.config (s.render fate).session (s.render fate).sent
      (s.render fate).error.isNone := by
  rw [render_eq]
  -- Printing does not fail, so what is left is to send the one directive.
  simp only [Progress.andThen, print, send_session, List.nil_append]
  exact ⟨rfl, rfl, rfl, [], by simp, send_sent _ _ _⟩

/-- Drawing after a part that leaves the plot alone, unless that part ends the step. -/
theorem Untouched.andThen_render {s : Session} {fate : Nat → Delivery} {p : Progress}
    (h : Untouched s p.session p.sent) :
    Untouched s (p.andThen (·.render fate)).session (p.andThen (·.render fate)).sent ∧
        (p.andThen (·.render fate)).error.isNone = false ∨
      Redrawn s s.config (p.andThen (·.render fate)).session
        (p.andThen (·.render fate)).sent (p.andThen (·.render fate)).error.isNone := by
  unfold Progress.andThen
  cases herror : p.error with
  | some e => exact .inl ⟨h, by simp [herror]⟩
  | none => exact .inr (h.redrawn (h.config ▸ redrawn_render p.session fate))

/-! ### Whole steps -/

/-- Only a command with changes redraws the plot, and what it draws is the updated
state. -/
theorem command_cases (s : Session) (fate : Nat → Delivery) (c : Command) :
    c.hasChanges = false ∧ Untouched s (s.command fate c).session (s.command fate c).sent ∨
      c.hasChanges = true ∧
      Redrawn s (s.config.update s.sources c).config (s.command fate c).session
        (s.command fate c).sent (s.command fate c).error.isNone := by
  unfold command
  dsimp only
  split
  case isFalse hchanges =>
    exact .inl ⟨Bool.eq_false_iff.mpr hchanges, untouched_print s _⟩
  case isTrue hchanges =>
    refine .inr ⟨hchanges, ?_⟩
    -- Neither what is told nor the line of the state can end the step.
    simp only [Progress.andThen, print, printLine, List.nil_append]
    exact { redrawn_render { s with config := (s.config.update s.sources c).config } fate with }

/-- The part of a step that remembers a line for repetition. -/
def remember (line : String) (s : Session) : Progress := { session := { s with previous := line } }

/-- A quitting line does nothing but quit. -/
theorem handle_eq_of_quit {s : Session} {fate : Nat → Delivery} {input : String}
    (h : Line.parse (s.resolve input) = .quit) :
    s.handle fate input = conclude { session := s } .quit := by
  unfold handle
  dsimp only
  rw [h]

/-- Any other line is performed and then remembered. -/
theorem handle_eq {s : Session} {fate : Nat → Delivery} {input : String}
    (h : Line.parse (s.resolve input) ≠ .quit) :
    s.handle fate input =
      conclude ((s.perform fate (Line.parse (s.resolve input))).andThen
        (remember (s.resolve input))) .goOn := by
  unfold handle
  dsimp only
  split
  · contradiction
  · rfl

/-- Remembering a line leaves the plot alone. -/
theorem untouched_remember (line : String) (s : Session) :
    Untouched s (remember line s).session (remember line s).sent :=
  ⟨rfl, rfl, rfl, by simp [remember]⟩

/-- A redrawing stays one if the line is remembered after it. -/
theorem Redrawn.andThen_remember {s : Session} {c : Config} {p : Progress} (line : String)
    (h : Redrawn s c p.session p.sent p.error.isNone) :
    Redrawn s c (p.andThen (remember line)).session (p.andThen (remember line)).sent
      (p.andThen (remember line)).error.isNone := by
  unfold Progress.andThen remember
  cases herror : p.error with
  | some e => simpa only [herror] using h
  | none =>
    rw [herror] at h
    simp only [List.append_nil]
    exact { h with }

/-- A step succeeds iff no part of it has a fault. -/
theorem succeeded_conclude (p : Progress) (flow : Flow) :
    (conclude p flow).succeeded = p.error.isNone := by
  unfold Outcome.succeeded conclude
  cases p.error with
  | some e => rfl
  | none => rfl

/-- The first step redraws the state that the session starts from. It leaves the
plot alone only if preparing the plotter fails. -/
theorem start_cases (s : Session) (fate : Nat → Delivery) :
    Untouched s (s.start fate).session (s.start fate).sent ∧
        (s.start fate).succeeded = false ∨
      Redrawn s s.config (s.start fate).session (s.start fate).sent
        (s.start fate).succeeded := by
  unfold start
  dsimp only
  rw [succeeded_conclude]
  -- Everything before the drawing only prints and sends the lines of the setup.
  apply Untouched.andThen_render
  exact ((untouched_print s _).andThen fun t => untouched_prepare t fate _).andThen
    fun t => untouched_print t _

/-- The step of a line redraws the updated state if the line is a command with
changes. All other lines leave the plot alone. -/
theorem handle_cases (s : Session) (fate : Nat → Delivery) (input : String) :
    (∀ c, Line.parse (s.resolve input) = .command c → c.hasChanges = false) ∧
        Untouched s (s.handle fate input).session (s.handle fate input).sent ∨
      ∃ c, Line.parse (s.resolve input) = .command c ∧ c.hasChanges = true ∧
        Redrawn s (s.config.update s.sources c).config (s.handle fate input).session
          (s.handle fate input).sent (s.handle fate input).succeeded := by
  -- One case for each kind of line: only a command can redraw.
  cases hline : Line.parse (s.resolve input) with
  | quit =>
    rw [handle_eq_of_quit hline]
    exact .inl ⟨by simp, Untouched.refl s⟩
  | blank =>
    rw [handle_eq (by simp [hline]), succeeded_conclude, hline]
    exact .inl ⟨by simp, Untouched.andThen (Untouched.refl s) (untouched_remember _)⟩
  | verbatim text =>
    rw [handle_eq (by simp [hline]), succeeded_conclude, hline]
    have hsend : Untouched s (s.perform fate (.verbatim text)).session
        (s.perform fate (.verbatim text)).sent :=
      (untouched_print s _).andThen fun t => untouched_send t fate _ (by simp)
    exact .inl ⟨by simp, hsend.andThen (untouched_remember _)⟩
  | command c =>
    rw [handle_eq (by simp [hline]), succeeded_conclude, hline]
    rcases s.command_cases fate c with ⟨hchanges, h⟩ | ⟨hchanges, h⟩
    · exact .inl ⟨fun _ hc => Line.command.inj hc ▸ hchanges, h.andThen (untouched_remember _)⟩
    · exact .inr ⟨c, rfl, hchanges, h.andThen_remember _⟩

end Session

end SeriesPlot
