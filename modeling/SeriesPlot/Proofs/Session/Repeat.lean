import SeriesPlot.Proofs.Session.Reading
import SeriesPlot.Proofs.Session.WellFormed

/-!
# `SeriesPlot.Proofs.Session.Repeat`: a blank line repeats the line before it

A blank line repeats the last line after which the session went on, or `i` if there is none.

* `writtenOut` puts a line in place of every blank one, looking only at the lines and the
  outcomes before it. It knows nothing of what a session remembers.
* `writtenOut_eq_resolvedLines`: these are the lines that the session itself takes the blank ones
  for. The induction is on the lines, with the line to repeat as its invariant.
* `handle_resolve`, `handleAll_resolvedLines`: a session does the same with a line and with what it
  takes the line for.
* `run_writtenOut`: so a run with its blank lines written out is the same run, whatever becomes of
  the directives.
-/

set_option autoImplicit false

namespace SeriesPlot.Session

/-- The line that a blank one repeats: the last of the lines so far after which the session
went on, and `i` if there is none. -/
def lastRepeatable (soFar : List (String × Outcome)) : String :=
  ((soFar.filter (·.2.goesOn)).getLast?.map (·.1)).getD "i"

/-- The lines of a run with its blank lines written out, given the outcome of each line. The
lines so far are those already written out. -/
def writtenOut (soFar : List (String × Outcome)) : List String → List Outcome → List String
  | input :: inputs, o :: outcomes =>
    let line := if Text.trim input.toList = [] then lastRepeatable soFar else input
    line :: writtenOut (soFar ++ [(line, o)]) inputs outcomes
  | _, _ => []

/-- The lines that a session takes some lines for. -/
def resolvedLines (s : Session) (fate : Nat → Delivery) : List String → List String
  | [] => []
  | input :: rest => s.resolve input :: (s.handle fate input).session.resolvedLines fate rest

variable {s : Session} {fate : Nat → Delivery}

/-- A line replaces the one to repeat if the session goes on after it. -/
theorem lastRepeatable_concat (soFar : List (String × Outcome)) (line : String) (o : Outcome) :
    lastRepeatable (soFar ++ [(line, o)]) = if o.goesOn then line else lastRepeatable soFar := by
  unfold lastRepeatable
  rw [List.filter_append]
  cases hgoesOn : o.goesOn with
  | true => simp [hgoesOn]
  | false => simp [hgoesOn]

/-- What a session remembers is the last line after which it went on. -/
theorem writtenOut_eq_resolvedLines {soFar : List (String × Outcome)}
    (hprevious : s.previous = lastRepeatable soFar) (inputs : List String) :
    writtenOut soFar inputs (s.handleAll fate inputs) = s.resolvedLines fate inputs := by
  induction inputs generalizing s soFar with
  | nil => rfl
  | cons input rest ih =>
    have hline : (if Text.trim input.toList = [] then lastRepeatable soFar else input) =
        s.resolve input := by
      rw [resolve, hprevious]
    unfold handleAll writtenOut resolvedLines
    dsimp only
    rw [hline, ih]
    rw [lastRepeatable_concat, previous_handle, hprevious]

/-- A session does the same with a line and with what it takes the line for. -/
theorem handle_resolve (hprevious : Line.Repeatable s.previous) (input : String) :
    s.handle fate (s.resolve input) = s.handle fate input := by
  have hresolve : s.resolve (s.resolve input) = s.resolve input :=
    resolve_eq_self (parse_resolve_ne_blank hprevious input)
  unfold handle
  rw [hresolve]

/-- So a session does the same with some lines and with what it takes them for. -/
theorem handleAll_resolvedLines (hprevious : Line.Repeatable s.previous) (inputs : List String) :
    s.handleAll fate (s.resolvedLines fate inputs) = s.handleAll fate inputs := by
  induction inputs generalizing s with
  | nil => rfl
  | cons input rest ih =>
    unfold resolvedLines handleAll
    dsimp only
    rw [handle_resolve hprevious, ih (repeatable_handle hprevious input)]

/-- No line is taken for a blank one. -/
theorem parse_ne_blank_of_mem_resolvedLines (hprevious : Line.Repeatable s.previous)
    {inputs : List String} {line : String} (h : line ∈ s.resolvedLines fate inputs) :
    Line.parse line ≠ .blank := by
  induction inputs generalizing s with
  | nil => exact nomatch h
  | cons input rest ih =>
    rcases List.mem_cons.mp h with rfl | hrest
    · exact parse_resolve_ne_blank hprevious input
    · exact ih (repeatable_handle hprevious input) hrest

/-- Every line is taken for one line. -/
theorem length_resolvedLines (s : Session) (fate : Nat → Delivery) (inputs : List String) :
    (s.resolvedLines fate inputs).length = inputs.length := by
  induction inputs generalizing s with
  | nil => rfl
  | cons input rest ih => rw [resolvedLines, List.length_cons, ih, List.length_cons]

/-- In every session that can be reached, the line to repeat can be repeated. -/
theorem Reachable.repeatable {t : Session} (h : Reachable s t)
    (hs : Line.Repeatable s.previous) : Line.Repeatable t.previous := by
  induction h with
  | refl => exact hs
  | @start t _ fate ih => rwa [previous_start]
  | @handle t _ fate input ih => exact repeatable_handle ih input

/-- A blank line repeats the last line after which the session went on, or asks for the
sources if there is none. With those lines in place of the blank ones a run is the same:
every step ends in the same way, prints and sends the same, and leaves the same session,
whatever becomes of the directives. In no session that can be reached is a blank line read
as blank or as one that ends the session, and it never does end it. -/
theorem run_writtenOut (set : SourceSet) (config : Config) (fate : Nat → Delivery)
    (inputs : List String) :
    let s : Session := { sources := set, config }
    let lines := writtenOut [] inputs ((s.start fate).session.handleAll fate inputs)
    s.run fate lines = s.run fate inputs ∧
      lines.length = inputs.length ∧
      (∀ line ∈ lines, Line.parse line ≠ .blank) ∧
      ∀ t : Session, Reachable s t → ∀ (fate : Nat → Delivery) (input : String),
        Text.trim input.toList = [] →
          Line.parse (t.resolve input) ≠ .blank ∧ Line.parse (t.resolve input) ≠ .quit ∧
            (t.handle fate input).result ≠ .ok .quit := by
  intro s lines
  have hinitial : Line.Repeatable s.previous :=
    show Line.Repeatable "i" from ⟨by decide, by decide⟩
  have hstart : (s.start fate).session.previous = lastRepeatable [] := previous_start s fate
  have hrepeatable : Line.Repeatable (s.start fate).session.previous := hstart ▸ hinitial
  have hlines : lines = (s.start fate).session.resolvedLines fate inputs :=
    writtenOut_eq_resolvedLines hstart inputs
  rw [hlines]
  refine ⟨?_, length_resolvedLines _ _ _,
    fun line => parse_ne_blank_of_mem_resolvedLines hrepeatable, ?_⟩
  · unfold run
    rw [handleAll_resolvedLines hrepeatable]
  · intro t ht fate input hblank
    have hresolve : t.resolve input = t.previous := if_pos hblank
    obtain ⟨hnotBlank, hnotQuit⟩ := ht.repeatable hinitial
    exact ⟨hresolve ▸ hnotBlank, hresolve ▸ hnotQuit,
      result_handle_ne_quit (hresolve ▸ hnotQuit)⟩

-- The line that fails is not repeated, and neither is the one that ends the session.
example :
    let fate (attempt : Nat) : Delivery := if attempt = 11 then .failed else .delivered
    let inputs := ["", "a3", "replot", "\t", "q", ""]
    writtenOut [] inputs ((sample.start fate).session.handleAll fate inputs) =
      ["i", "a3", "replot", "a3", "q", "a3"] := by
  decide +kernel

end SeriesPlot.Session
