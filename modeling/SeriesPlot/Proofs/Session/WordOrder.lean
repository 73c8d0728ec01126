import SeriesPlot.Proofs.Command.Order
import SeriesPlot.Proofs.Session.Reading
import SeriesPlot.Proofs.Session.Run

/-!
# `SeriesPlot.Proofs.Session.WordOrder`: lines that differ in the order of kinds

Lines of known words that differ only in how words of different kinds alternate are read
as the same (`Line.parse_join_of_keepsKinds`). So they update every state in the same way
(`Config.updateBy?`), and every session does the same with them: it prints and sends the same, and
apart from which of the two lines it remembers it is the same afterwards
(`Session.word_order_between_kinds`). A blank line after either of them is taken for a line that is
read as the same.

Within a kind the order does matter. Time tokens act one after the other, of two selectors the
later one counts, and so for value ranges and for the values of one option.
-/

set_option autoImplicit false

namespace SeriesPlot

open SeriesPlot.Text

/-- What a line does with a state, if it is a command. -/
def Config.updateBy? (c : Config) (set : SourceSet) (line : String) : Option Update :=
  match Line.parse line with
  | .command command => some (c.update set command)
  | _ => none

/-- The order of words matters within a kind only. If the words of a line are known, and none
of them is the `i` that ends a line, they can be reordered as long as those of each kind keep
their order. What the line is read as, what it does with a state, and what a session prints
and sends for it stay the same. -/
theorem Session.word_order_between_kinds {ws ws' : List String} (hne : ws ≠ [])
    (hwords : ∀ word ∈ ws, IsWord word) (hknown : Intent.AllKnown (Intent.ofWords ws))
    (horder : Line.KeepsKinds ws ws') :
    let line := join " " ws
    let line' := join " " ws'
    Line.parse line' = Line.parse line ∧
      (∀ (c : Config) (set : SourceSet), c.updateBy? set line' = c.updateBy? set line) ∧
      ∀ (s : Session) (fate : Nat → Delivery),
        (s.handle fate line').result = (s.handle fate line).result ∧
          (s.handle fate line').printed = (s.handle fate line).printed ∧
          (s.handle fate line').sent = (s.handle fate line).sent ∧
          (s.handle fate line').session = { (s.handle fate line).session with
            previous := (s.handle fate line').session.previous } := by
  intro line line'
  have hparse : Line.parse line' = Line.parse line :=
    Line.parse_join_of_keepsKinds hne hwords hknown horder
  have hblank : Line.parse line ≠ .blank := by
    rw [ne_eq, Line.parse_eq_blank_iff, trim_join hwords]
    exact toList_join_ne_nil hne hwords
  refine ⟨hparse, fun c set => ?_, fun s fate => ?_⟩
  · unfold Config.updateBy?
    rw [hparse]
  · exact handle_congr hparse hblank

/-- A width, a time that sets the stop and so marks the width, two selectors, a value range
and a month that there is not. The line is the same command in another order. -/
theorem Session.word_order_between_kinds_of_marked_width :
    let ws := ["a2", "3h", "y:", "vn", "e2013-06-02", "s2013-13-01"]
    let ws' := ["s2013-13-01", "3h", "a2", "e2013-06-02", "vn", "y:"]
    (∀ word ∈ ws, IsWord word) ∧ Intent.AllKnown (Intent.ofWords ws) ∧
      Line.KeepsKinds ws ws' ∧
      Line.parse (join " " ws') = .command {
        selection := some .next
        times := [
          .shift { word := "3h", direction := .resize, intensity := 1, magnitude := some 3,
                   unit := some .hour, pin := .free, stopAnchored := true },
          .stop ⟨1370131200000, by decide, by decide⟩]
        yRange := some .auto
        invalid := [⟨"s2013-13-01", .time (.invalidLiteral "2013-13-01")⟩] } := by
  intro ws ws'
  have hwords : ∀ word ∈ ws, IsWord word := by decide +kernel
  have hknown : Intent.AllKnown (Intent.ofWords ws) := by decide +kernel
  have horder : Line.KeepsKinds ws ws' :=
    ⟨by decide, fun kind => by cases kind <;> decide +kernel⟩
  obtain ⟨hparse, -, -⟩ := Session.word_order_between_kinds (by simp [ws]) hwords hknown horder
  refine ⟨hwords, hknown, horder, hparse.trans ?_⟩
  decide +kernel

end SeriesPlot
