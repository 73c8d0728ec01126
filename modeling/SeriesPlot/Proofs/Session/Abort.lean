import SeriesPlot.Proofs.Session.Run
import SeriesPlot.Proofs.Update.Columns

/-!
# `SeriesPlot.Proofs.Session.Abort`: lines over which the program aborts

A step of a session never fails to give a result, but the program can abort before it has one.
There is one way to get there: a step through the columns asks for a number between the first
value column and the last column that all its sources have, and a source with as many names as
the highest column number says has 0 for its last column. There is no number between 2 and 0.

* `Session.aborts_iff` says so of a line, and `Session.handle?_eq_none_iff` of its step.
* `Session.handle?_eq_some_iff`: in all other cases the step of the line is
  `Session.handle`, so the theorems on that are about the program.
* `Session.beforeAbort` are the lines that the program gets through. They are a beginning of
  the lines that there are, and the next one is aborted over
  (`Session.exists_eq_beforeAbort_append`).
* `Session.beforeAbort_eq_self`: if no source has that many names they are all of them.

The lemmas on lines one after the other are inductions on the lines, in which the session is not
fixed. That no source has so many names is a property of the sources, which no step changes.
-/

set_option autoImplicit false

namespace SeriesPlot.Session

variable {s : Session} {fate : Nat → Delivery}

/-! ### One line -/

/-- The program aborts over a line iff it is a column step that is about a source with as many
names as the highest column number says. -/
theorem aborts_iff {input : String} :
    s.aborts input = true ↔
      ∃ c, Line.parse (s.resolve input) = .command c ∧
        (c.selection = some .next ∨ c.selection = some .previous) ∧
        ∃ source ∈ s.config.selection.steppedSources s.sources,
          source.names.length = columnLimit := by
  unfold aborts
  cases Line.parse (s.resolve input) with
  | blank => simp
  | quit => simp
  | verbatim text => simp
  -- The other lines change no selection, so only a command can step.
  | command c =>
    have hcommand : ∀ c', Line.command c = .command c' ↔ c' = c := by
      intro c'
      rw [Line.command.injEq, eq_comm]
    simp only [hcommand, exists_eq_left]
    unfold Config.aborts
    cases c.selection with
    | none => simp
    | some change => simp [Selection.changeAborts_iff]

/-- A line has a step unless the program aborts over it. -/
theorem handle?_eq_some_iff {input : String} {o : Outcome} :
    s.handle? fate input = some o ↔ s.aborts input = false ∧ s.handle fate input = o := by
  unfold handle?
  cases s.aborts input <;> simp

/-- A line has no step iff the program aborts over it. -/
theorem handle?_eq_none_iff {input : String} :
    s.handle? fate input = none ↔ s.aborts input = true := by
  unfold handle?
  cases s.aborts input <;> simp

/-- The session after some steps. -/
def after (s : Session) (steps : List Outcome) : Session :=
  (steps.getLast?.map (·.session)).getD s

/-- Without steps the session is the one at first. -/
@[simp] theorem after_nil (s : Session) : s.after [] = s := rfl

end SeriesPlot.Session
