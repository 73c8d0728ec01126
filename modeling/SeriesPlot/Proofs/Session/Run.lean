import SeriesPlot.Proofs.Session.Step

/-!
# `SeriesPlot.Proofs.Session.Run`: whole runs of a session

A run is the first step of a session followed by the steps of some lines. It goes
on after a fault and after a quitting line, so every shorter run is one as well
(`Session.take_handleAll`).

* `Session.run_induction` is the one induction over runs: what holds after the first step
  and is kept by the step of every line holds after each step of a run. The property is of the
  outcomes so far and of the session after them.
* `Session.sources_run`: no step changes the sources.
* `Session.drawn_of_plot_mem`: a plot that is sent in a run is the plot of the state after the step
  that sends it.

`Session.sample` is the session that the examples of later modules start from.
-/

set_option autoImplicit false

namespace SeriesPlot.Session

variable {fate : Nat → Delivery}

/-- The outcomes of a run: of the first step, and of the step of each line. -/
def run (s : Session) (fate : Nat → Delivery) (inputs : List String) : List Outcome :=
  s.start fate :: (s.start fate).session.handleAll fate inputs

/-- A property of the outcomes so far and the session after them that every line
keeps holds after each of the steps of some lines. -/
theorem handleAll_induction {motive : List Outcome → Session → Prop}
    (step : ∀ (outcomes : List Outcome) (t : Session) (input : String), motive outcomes t →
      motive (outcomes ++ [t.handle fate input]) (t.handle fate input).session)
    {inputs : List String} {s : Session} {soFar before after : List Outcome} {o : Outcome}
    (hsoFar : motive soFar s) (hrun : s.handleAll fate inputs = before ++ o :: after) :
    motive (soFar ++ before ++ [o]) o.session := by
  induction inputs generalizing s soFar before with
  | nil => simp [handleAll] at hrun
  | cons input rest ih =>
    have hstep := step soFar s input hsoFar
    unfold handleAll at hrun
    cases before with
    | nil =>
      obtain ⟨rfl, -⟩ := List.cons.inj hrun
      rwa [List.append_nil]
    | cons first before =>
      obtain ⟨rfl, hrest⟩ := List.cons.inj hrun
      have hlater := ih hstep hrest
      rwa [List.append_assoc soFar, List.singleton_append] at hlater

/-- A property of the outcomes so far and the session after them holds after each
step of a run if the first step establishes it and every line keeps it. -/
theorem run_induction {motive : List Outcome → Session → Prop} {s : Session}
    (start : motive [s.start fate] (s.start fate).session)
    (step : ∀ (outcomes : List Outcome) (t : Session) (input : String), motive outcomes t →
      motive (outcomes ++ [t.handle fate input]) (t.handle fate input).session)
    {inputs : List String} {before after : List Outcome} {o : Outcome}
    (hrun : s.run fate inputs = before ++ o :: after) :
    motive (before ++ [o]) o.session := by
  unfold run at hrun
  cases before with
  | nil =>
    obtain ⟨rfl, -⟩ := List.cons.inj hrun
    exact start
  | cons first before =>
    obtain ⟨rfl, hrest⟩ := List.cons.inj hrun
    exact handleAll_induction step start hrest

/-- The first step keeps the sources. -/
theorem sources_start (s : Session) (fate : Nat → Delivery) :
    (s.start fate).session.sources = s.sources := by
  rcases s.start_cases fate with ⟨h, -⟩ | h
  · exact h.sources
  · exact h.sources

/-- The step of a line keeps the sources. -/
theorem sources_handle (s : Session) (fate : Nat → Delivery) (input : String) :
    (s.handle fate input).session.sources = s.sources := by
  rcases s.handle_cases fate input with ⟨-, h⟩ | ⟨_, -, -, h⟩
  · exact h.sources
  · exact h.sources

/-- The sources of a session stay the same. -/
theorem sources_run {s : Session} {inputs : List String} {before after : List Outcome}
    {o : Outcome} (hrun : s.run fate inputs = before ++ o :: after) :
    o.session.sources = s.sources := by
  refine run_induction (motive := fun _ t => t.sources = s.sources) (sources_start s fate) ?_ hrun
  intro _ t input ih
  exact (sources_handle t fate input).trans ih

/-- The outcomes of some lines are steps of sessions. -/
theorem exists_handle_of_mem_handleAll {s : Session} {inputs : List String} {o : Outcome}
    (h : o ∈ s.handleAll fate inputs) : ∃ t input, o = handle t fate input := by
  induction inputs generalizing s with
  | nil => exact absurd h List.not_mem_nil
  | cons input rest ih =>
    rcases List.mem_cons.mp h with heq | h
    · exact ⟨s, input, heq⟩
    · exact ih h

/-- A step of a run is the first step or the step of a line. -/
theorem eq_start_or_exists_handle_of_run {s : Session} {inputs : List String}
    {before after : List Outcome} {o : Outcome}
    (hrun : s.run fate inputs = before ++ o :: after) :
    o = s.start fate ∨ ∃ t input, o = handle t fate input := by
  have hmem : o ∈ s.run fate inputs := by simp [hrun]
  exact (List.mem_cons.mp hmem).imp id exists_handle_of_mem_handleAll

/-- A plot that is sent in a run is the plot of the state after the step that sends it.
It is the last directive of the step, and nothing is owed after it. -/
theorem drawn_of_plot_mem {s : Session} {inputs : List String} {before after : List Outcome}
    {o : Outcome} {p : Plot} (hrun : s.run fate inputs = before ++ o :: after)
    (hp : .plot p ∈ o.sent) :
    Plot.ofConfig? o.session.config s.sources = some p ∧ o.session.owed = {} ∧
      o.sent.getLast? = some (.plot p) := by
  rw [← sources_run hrun]
  -- A step that leaves the plot alone sends none, so the step is a redrawing.
  rcases eq_start_or_exists_handle_of_run hrun with heq | ⟨t, input, heq⟩ <;> rw [heq] at hp ⊢
  · rcases s.start_cases fate with ⟨h, -⟩ | h
    · exact absurd hp (h.no_plot p)
    · exact h.of_plot_mem hp
  · rcases t.handle_cases fate input with ⟨-, h⟩ | ⟨_, -, -, h⟩
    · exact absurd hp (h.no_plot p)
    · exact h.of_plot_mem hp

/-- A session with the usual settings over one file, which has two columns and covers
ten hours of the first of June 2013. -/
def sample : Session :=
  let day : Window :=
    ⟨⟨1370044800000, by decide, by decide⟩, ⟨1370080800000, by decide, by decide⟩, by decide⟩
  { sources := {
      sources := [{
        letter := 'a', start := day.start, stop := day.stop, names := ["temp", "rh"],
        label := "a.csv" }]
      union := day
      overlap := some day }
    config := {
      window := day, yRange := .auto, selection := .initial, style := .lines, lineWidth := 1,
      missing := none, title := .auto, ticks := .auto, echo := false, titleDue := true,
      ticksDue := true, defaults := { style := .lines, lineWidth := 1, missing := none } } }

/-- The state of this session is built from settings that say nothing. -/
theorem build_sample : ({} : Settings).build sample.config.window = .ok sample.config := by
  unfold Settings.build
  dsimp only
  rw [if_pos (by decide +kernel)]
  rfl

end SeriesPlot.Session
