import Mathlib.Data.List.Chain
import SeriesPlot.Proofs.Session.Delivered
import SeriesPlot.Proofs.Session.Reading
import SeriesPlot.Proofs.Update.Absolute

/-!
# `SeriesPlot.Proofs.Session.Inert`: lines that change nothing can be added anywhere

A line for the plotter and a command without changes leave a session as it is, but for the
number of directives sent and the line to repeat (`Line.IsInert`). The first is counted for
the outside only, and the second is read by a blank line only. So such lines can be added to a
run wherever they do not come between a line and its repetition (`MarkedLine.Insertable`), and
the run does the same at all other lines (`Session.observed_handleAll_unmarked`).

Sessions may also differ in what is due in their states. An update does not read it
(`Config.update_due`), and what it leaves is due for what has changed. What was due and could
not be drawn is kept apart, as what is owed. So sessions that are `Alike` do the same, and it
makes no difference whether a session takes over the state that a command without changes
leaves (`Session.shown_handleAllTakingOver`).

The relation `Alike` is what both inductions on the lines go by: a marked line leaves the session
alike (`Untouched.alike`), and alike sessions do the same with every other one (`Alike.handle`).
What they remember is compared apart from it, as it differs right after a marked line.
-/

set_option autoImplicit false

namespace SeriesPlot

/-- A line that changes nothing: it is for the plotter, or a command without changes. -/
def Line.IsInert (line : String) : Prop :=
  match parse line with
  | .verbatim _ => True
  | .command c => c.hasChanges = false
  | _ => False

instance (line : String) : Decidable (Line.IsInert line) :=
  match h : Line.parse line with
  | .verbatim _ => .isTrue (by simp [Line.IsInert, h])
  | .command c => decidable_of_iff (c.hasChanges = false) (by simp [Line.IsInert, h])
  | .blank => .isFalse (by simp [Line.IsInert, h])
  | .quit => .isFalse (by simp [Line.IsInert, h])

instance (line : String) : Decidable (Line.Repeatable line) :=
  inferInstanceAs (Decidable (_ ∧ _))

/-- A line of a run that may be marked. -/
structure MarkedLine where
  text : String
  marked : Bool

namespace MarkedLine

/-- The lines without a mark. -/
def unmarked (lines : List MarkedLine) : List String :=
  (lines.filter (!·.marked)).map (·.text)

/-- What belongs to the lines without a mark, of values that belong to all lines in turn. -/
def atUnmarked {α : Type} (lines : List MarkedLine) (values : List α) : List α :=
  ((lines.zip values).filter (!·.1.marked)).map (·.2)

/-- The marked lines change nothing, and none of them is directly before a blank line or one
that ends the session. -/
def Insertable (lines : List MarkedLine) : Prop :=
  (∀ line ∈ lines, line.marked = true → Line.IsInert line.text) ∧
    lines.IsChain fun line next => line.marked = true → Line.Repeatable next.text

instance (lines : List MarkedLine) : Decidable (Insertable lines) :=
  inferInstanceAs (Decidable (_ ∧ _))

section

variable {α : Type} {line : MarkedLine} {lines : List MarkedLine} {value : α} {values : List α}

/-- The lines without a mark, from the first line on. -/
theorem unmarked_cons : unmarked (line :: lines) =
    if line.marked then unmarked lines else line.text :: unmarked lines := by
  cases h : line.marked <;> simp [unmarked, h]

/-- What belongs to them, from the first line on. -/
theorem atUnmarked_cons : atUnmarked (line :: lines) (value :: values) =
    if line.marked then atUnmarked lines values else value :: atUnmarked lines values := by
  cases h : line.marked <;> simp [atUnmarked, h]

end

end MarkedLine

namespace Outcome

/-- What a step shows to the outside. -/
def shown (o : Outcome) : Except SessionError Flow × String × List Directive :=
  (o.result, o.printed, o.sent)

/-- What a step shows to the outside, and the state it leaves. -/
def observed (o : Outcome) : (Except SessionError Flow × String × List Directive) × Config :=
  (o.shown, o.session.config)

end Outcome

/-- An inert line is neither blank nor one that ends the session. -/
theorem Line.IsInert.repeatable {line : String} (h : IsInert line) : Repeatable line := by
  unfold IsInert at h
  constructor
  · intro hblank
    rwa [hblank] at h
  · intro hquit
    rwa [hquit] at h

namespace Session

/-- Two sessions that differ at most in what is due in their states, in how many directives
they have sent, and in the line to repeat. -/
structure Alike (s t : Session) : Prop where
  sources : t.sources = s.sources
  owed : t.owed = s.owed
  config : ∃ title ticks, t.config = { s.config with titleDue := title, ticksDue := ticks }

variable {s t u : Session} {fate : Nat → Delivery}

/-- A session is like itself. -/
theorem Alike.refl (s : Session) : Alike s s := ⟨rfl, rfl, _, _, rfl⟩

/-- Sessions that are like a third one are alike. -/
theorem Alike.trans (h : Alike s t) (h' : Alike t u) : Alike s u where
  sources := h'.sources.trans h.sources
  owed := h'.owed.trans h.owed
  config := by
    obtain ⟨title, ticks, hconfig⟩ := h.config
    obtain ⟨title', ticks', hconfig'⟩ := h'.config
    exact ⟨title', ticks', by rw [hconfig', hconfig]⟩

/-- What is remembered makes no difference to this. -/
theorem Alike.remembering (h : Alike s t) (line : String) :
    Alike { s with previous := line } { t with previous := line } := { h with }

/-- What alike sessions do with a line. Their states do not come apart. -/
theorem Alike.effect (h : Alike s t) (line : Line) :
    (t.effect line).printed = (s.effect line).printed ∧
      (t.effect line).sent = (s.effect line).sent ∧
      Alike (s.effect line).session (t.effect line).session ∧
      (t.config = s.config →
        (t.effect line).session.config = (s.effect line).session.config) := by
  cases line with
  | blank => exact ⟨rfl, rfl, h, id⟩
  | quit => exact ⟨rfl, rfl, h, id⟩
  | verbatim text => exact ⟨rfl, rfl, { h with }, id⟩
  | command c =>
    obtain ⟨title, ticks, hconfig⟩ := h.config
    have hupdate : t.config.update t.sources c = s.config.update s.sources c := by
      rw [h.sources, hconfig, Config.update_due]
    have htold : t.told c = s.told c := by
      unfold told
      rw [hupdate, h.sources]
    cases hchanges : c.hasChanges with
    | false =>
      rw [effect_of_not_hasChanges hchanges, effect_of_not_hasChanges hchanges]
      exact ⟨htold, rfl, h, id⟩
    | true =>
      -- The state that is drawn comes from the update, and what is owed is the same.
      have hdrawn : t.drawn (t.config.update t.sources c).config =
          { s.drawn (s.config.update s.sources c).config with
            previous := t.previous
            attempts := t.attempts + 1 } := by
        rw [hupdate]
        unfold drawn
        rw [h.owed, h.sources]
      rw [effect_of_hasChanges hchanges, effect_of_hasChanges hchanges, hdrawn, htold]
      exact ⟨rfl, rfl, { Alike.refl (s.drawn (s.config.update s.sources c).config) with },
        fun _ => rfl⟩

/-- Alike sessions that take an input for the same line do the same. -/
theorem Alike.handle (h : Alike s t) (hfate : ∀ n, fate n = .delivered) {input : String}
    (hline : t.resolve input = s.resolve input) :
    (t.handle fate input).shown = (s.handle fate input).shown ∧
      Alike (s.handle fate input).session (t.handle fate input).session ∧
      (t.config = s.config →
        (t.handle fate input).session.config = (s.handle fate input).session.config) := by
  obtain ⟨hprinted, hsent, hsession, hconfig⟩ := h.effect (Line.parse (s.resolve input))
  rw [handle_eq_of_delivered hfate, handle_eq_of_delivered hfate, hline]
  dsimp only
  generalize s.effect (Line.parse (s.resolve input)) = p at *
  generalize t.effect (Line.parse (s.resolve input)) = q at *
  refine ⟨by rw [Outcome.shown, hprinted, hsent]; rfl, ?_⟩
  split
  · exact ⟨h, id⟩
  · exact ⟨hsession.remembering _, hconfig⟩

/-! ### Adding lines that change nothing -/

/-- A line that changes nothing leaves the plot alone, whatever becomes of the directives. -/
theorem untouched_handle_of_isInert {line : String} (h : Line.IsInert line) (s : Session)
    (fate : Nat → Delivery) :
    Untouched s (s.handle fate line).session (s.handle fate line).sent := by
  rcases s.handle_cases fate line with ⟨-, huntouched⟩ | ⟨c, hparse, hchanges, -⟩
  · exact huntouched
  · rw [resolve_eq_self h.repeatable.1] at hparse
    unfold Line.IsInert at h
    rw [hparse] at h
    exact absurd h (by simp [hchanges])

/-- If the plot is left alone, the session stays alike. -/
theorem Untouched.alike {sent : List Directive} (h : Untouched s t sent) : Alike s t :=
  ⟨h.sources, h.owed, _, _, h.config⟩

/-- Two sessions take an input for the same line and repeat the same after it, if they did
before or the input is a line to repeat. -/
theorem previous_handle_congr (hfate : ∀ n, fate n = .delivered) (input : String)
    (h : t.previous = s.previous ∨ Line.Repeatable input) :
    t.resolve input = s.resolve input ∧
      (t.handle fate input).session.previous = (s.handle fate input).session.previous := by
  have hline : t.resolve input = s.resolve input := by
    rcases h with hprevious | hrepeatable
    · rw [resolve, resolve, hprevious]
    · rw [resolve_eq_self hrepeatable.1, resolve_eq_self hrepeatable.1]
  refine ⟨hline, ?_⟩
  rw [handle_eq_of_delivered hfate, handle_eq_of_delivered hfate, hline]
  dsimp only
  split
  -- A quitting line is not remembered, and it is no line to repeat either.
  case isTrue hquit =>
    refine h.resolve_right fun hrepeatable => ?_
    rw [resolve_eq_self hrepeatable.1] at hquit
    exact hrepeatable.2 hquit
  case isFalse => rfl

/-- The unmarked lines show the same and leave the same states with the marked ones and
without. The sessions before may differ in the line to repeat if the next line does not read
it. -/
theorem observed_handleAll_unmarked (hfate : ∀ n, fate n = .delivered) {lines : List MarkedLine}
    (h : MarkedLine.Insertable lines) (halike : Alike s t) (hconfig : t.config = s.config)
    (hprevious : t.previous = s.previous ∨
      ∀ line ∈ lines.head?, Line.Repeatable line.text) :
    (MarkedLine.atUnmarked lines (t.handleAll fate (lines.map (·.text)))).map Outcome.observed =
      (s.handleAll fate (MarkedLine.unmarked lines)).map Outcome.observed := by
  obtain ⟨hinert, hchain⟩ := h
  induction lines generalizing s t with
  | nil => rfl
  | cons line rest ih =>
    rw [List.isChain_cons] at hchain
    obtain ⟨hnext, hchain⟩ := hchain
    have hinertRest : ∀ later ∈ rest, later.marked = true → Line.IsInert later.text :=
      fun later hlater => hinert later (List.mem_cons_of_mem line hlater)
    rw [List.map_cons, handleAll, MarkedLine.atUnmarked_cons, MarkedLine.unmarked_cons]
    cases hmarked : line.marked with
    | true =>
      -- After the marked line all is as before it, except perhaps for the line to repeat.
      have huntouched := untouched_handle_of_isInert (hinert line List.mem_cons_self hmarked) t fate
      exact ih (halike.trans huntouched.alike) (huntouched.config.trans hconfig)
        (.inr fun next hhead => hnext next hhead hmarked) hinertRest hchain
    | false =>
      have hprevious' : t.previous = s.previous ∨ Line.Repeatable line.text :=
        hprevious.imp id fun hhead => hhead line rfl
      obtain ⟨hline, hremembered⟩ := previous_handle_congr hfate line.text hprevious'
      obtain ⟨hshown, hsession, hsameConfig⟩ := halike.handle hfate hline
      have hrest := ih hsession (hsameConfig hconfig) (.inl hremembered) hinertRest hchain
      show Outcome.observed _ :: List.map _ _ = Outcome.observed _ :: List.map _ _
      rw [hrest, Outcome.observed, hshown, hsameConfig hconfig]
      rfl

/-! ### Taking over the state after a command without changes -/

end Session

/-- A command without changes leaves the state as it is, with nothing due. -/
theorem Config.config_update_of_not_hasChanges {command : Command}
    (h : command.hasChanges = false) (c : Config) (set : SourceSet) :
    (c.update set command).config = { c with titleDue := false, ticksDue := false } := by
  simp only [Command.hasChanges, Bool.or_eq_false_iff, Option.isSome_eq_false_iff,
    Option.isNone_iff_eq_none, Bool.not_eq_false', List.isEmpty_iff] at h
  obtain ⟨⟨⟨hselection, htimes⟩, hyRange⟩, hoptions⟩ := h
  have hmoved : c.moved set command = c := by
    unfold moved
    rw [hselection, htimes, hyRange]
    rfl
  rw [update_eq, hmoved, hoptions]
  simp [titleChanged, ticksChanged]

namespace Session

variable {s t : Session} {fate : Nat → Delivery}

/-- The step of a line which, if it is a command without changes, takes over the state that
the command leaves. -/
def handleTakingOver (s : Session) (fate : Nat → Delivery) (input : String) : Outcome :=
  let o := s.handle fate input
  match Line.parse (s.resolve input) with
  | .command c =>
    if c.hasChanges then o
    else { o with session := { o.session with config := (s.config.update s.sources c).config } }
  | _ => o

/-- The steps of some lines. The state after a command without changes is taken over where the
line is marked. -/
def handleAllTakingOver (s : Session) (fate : Nat → Delivery) : List MarkedLine → List Outcome
  | [] => []
  | line :: rest =>
    let o := if line.marked then s.handleTakingOver fate line.text else s.handle fate line.text
    o :: o.session.handleAllTakingOver fate rest

/-- Taking over the state shows what the step shows, and leaves the session alike with the same
line to repeat. -/
theorem alike_handleTakingOver (s : Session) (fate : Nat → Delivery) (input : String) :
    (s.handleTakingOver fate input).shown = (s.handle fate input).shown ∧
      Alike (s.handle fate input).session (s.handleTakingOver fate input).session ∧
      (s.handleTakingOver fate input).session.previous =
        (s.handle fate input).session.previous := by
  have hcases := s.handle_cases fate input
  unfold handleTakingOver
  generalize s.handle fate input = o at hcases
  dsimp only
  split
  · rename_i c hparse
    split
    · exact ⟨rfl, .refl _, rfl⟩
    · rename_i hchanges
      -- The step has left the state as it was, so only what is due can change.
      have hconfig : o.session.config = s.config := by
        rcases hcases with ⟨-, h⟩ | ⟨c', hparse', hchanges', -⟩
        · exact h.config
        · rw [hparse] at hparse'
          cases hparse'
          exact absurd hchanges' hchanges
      refine ⟨rfl, ⟨rfl, rfl, false, false, ?_⟩, rfl⟩
      rw [hconfig]
      exact Config.config_update_of_not_hasChanges (Bool.eq_false_iff.mpr hchanges) _ _
  · exact ⟨rfl, .refl _, rfl⟩

/-- Taking over the state after commands without changes shows on no line. -/
theorem shown_handleAllTakingOver (hfate : ∀ n, fate n = .delivered) (halike : Alike s t)
    (hprevious : t.previous = s.previous) (lines : List MarkedLine) :
    (t.handleAllTakingOver fate lines).map Outcome.shown =
      (s.handleAll fate (lines.map (·.text))).map Outcome.shown := by
  induction lines generalizing s t with
  | nil => rfl
  | cons line rest ih =>
    obtain ⟨hline, hremembered⟩ := previous_handle_congr hfate line.text (.inl hprevious)
    obtain ⟨hshown, hsession, -⟩ := halike.handle hfate hline
    obtain ⟨hshown', hsession', hremembered'⟩ := t.alike_handleTakingOver fate line.text
    simp only [handleAllTakingOver, handleAll, List.map_cons]
    split
    · rw [hshown', hshown, ih (hsession.trans hsession') (hremembered'.trans hremembered)]
    · rw [hshown, ih hsession hremembered]

/-- Lines that change nothing can be added to a run, but not directly before a blank line or
one that ends the session. If all directives arrive, every other line then ends in the same
way, prints and sends the same, and leaves the same state. The state stays what it was over an
added line. No update depends on what is due in the state it starts from, so a session that
took over the state after such lines would show the same on all lines. -/
theorem inert_lines_unobserved (hfate : ∀ n, fate n = .delivered) (s : Session)
    {lines : List MarkedLine} (h : MarkedLine.Insertable lines) :
    (MarkedLine.atUnmarked lines (s.handleAll fate (lines.map (·.text)))).map Outcome.observed =
        (s.handleAll fate (MarkedLine.unmarked lines)).map Outcome.observed ∧
      (∀ (t : Session) (line : String), Line.IsInert line →
        (t.handle fate line).session.config = t.config) ∧
      (∀ (c : Config) (set : SourceSet) (command : Command) (title ticks : Bool),
        { c with titleDue := title, ticksDue := ticks }.update set command =
          c.update set command) ∧
      ∀ lines : List MarkedLine,
        (s.handleAllTakingOver fate lines).map Outcome.shown =
          (s.handleAll fate (lines.map (·.text))).map Outcome.shown :=
  ⟨observed_handleAll_unmarked hfate h (.refl s) rfl (.inl rfl),
    fun t _ hinert => (untouched_handle_of_isInert hinert t fate).config,
    Config.update_due, shown_handleAllTakingOver hfate (.refl s) rfl⟩

/-- A title that is owed since nothing could be plotted is still set with the next plot. -/
theorem inert_lines_unobserved_while_title_owed :
    let fate : Nat → Delivery := fun _ => .delivered
    let s := (sample.start fate).session
    let lines : List MarkedLine :=
      [⟨"-title='fixed' q2", false⟩, ⟨"replot", true⟩, ⟨"i", true⟩, ⟨"a3", false⟩]
    MarkedLine.Insertable lines ∧
      (MarkedLine.atUnmarked lines (s.handleAll fate (lines.map (·.text)))).map
        Outcome.observed = (s.handleAll fate ["-title='fixed' q2", "a3"]).map Outcome.observed ∧
      (s.handle fate "-title='fixed' q2").session.owed.title = true := by
  intro fate s lines
  have hinsertable : MarkedLine.Insertable lines := by decide +kernel
  obtain ⟨hobserved, -⟩ := inert_lines_unobserved (fun _ => rfl) s hinsertable
  exact ⟨hinsertable, hobserved, by decide +kernel⟩

end Session

end SeriesPlot
