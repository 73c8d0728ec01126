import SeriesPlot.Config
import SeriesPlot.Proofs.Support.EraseDups
import SeriesPlot.Proofs.Text.Blank

/-!
# `SeriesPlot.Proofs.Config.WellFormed`: states that can be plotted

`Config.WellFormed` lists what every state of a session satisfies. Only the order of
the window is part of its type. The rest is up to the functions that make the values,
and the lemmas here say that each of them makes well-formed ones:

* `Selection.wellFormed_ofItems`, `Selection.wellFormed_initial`: a selection selects something,
  and nothing twice.
* `PlotStyle.text_ofName_ne_empty`: a style has a name.
* `Binary64.isPositive_iff`: a line width is a finite number above zero.
* `MissingTest.wellFormed_of_parse?`: a test for missing values has an operand without white
  space around it.

`Settings.Admissible` says the same of what a session is started with.
`Settings.exists_build_eq_ok` and `Settings.wellFormed_of_build` are the base case: a state can be
built of such settings, and it is well-formed. Its defaults are the values that it starts with
(`Settings.of_build`), so they are checked too, and a bare option can restore them at any time.
-/

set_option autoImplicit false

namespace SeriesPlot

open SeriesPlot.Text SeriesPlot.Proofs.Support

namespace Binary64

/-- A line width that passes the check is a finite number above zero. -/
theorem isPositive_iff {x : Binary64} : x.isPositive = true ↔ x.isFinite = true ∧ 0 < x := by
  rw [isPositive, Bool.and_eq_true]
  exact Iff.rfl

end Binary64

namespace Selection

/-- Something is selected, and nothing twice. -/
def WellFormed (s : Selection) : Prop := s.items ≠ [] ∧ s.items.Nodup

/-- Items without repetition are a selection, if there are any. -/
theorem wellFormed_ofItems {items : List Item} (h : items ≠ []) : (ofItems items).WellFormed :=
  ⟨fun hnil => h (eraseDupsBy_eq_nil_iff.mp hnil), nodup_eraseDups items⟩

/-- The selection that a session starts with selects something. -/
theorem wellFormed_initial : initial.WellFormed := by
  unfold WellFormed
  decide

end Selection

namespace PlotStyle

/-- A style that is asked for by name has one. -/
theorem text_ofName_ne_empty {name : String} (h : trim name.toList ≠ []) :
    (ofName name).text ≠ "" := by
  unfold ofName
  dsimp only
  split <;> simp [text, h]

end PlotStyle

namespace MissingTest

/-- The comparison has an operand, with no white space around it. -/
def WellFormed (m : MissingTest) : Prop :=
  m.operand ≠ "" ∧ trim m.operand.toList = m.operand.toList

/-- A trimmed operand can be read again, whatever the operator is. -/
theorem wellFormed_of_operand {comparison : Comparison} {text : List Char}
    (h : trim text ≠ []) : WellFormed ⟨comparison, String.ofList (trim text)⟩ := by
  constructor
  · simpa using h
  · rw [String.toList_ofList, trim_trim]

/-- Both a comparison and a bare number give a well-formed test. -/
theorem wellFormed_of_parse? {text : String} {m : MissingTest} (h : parse? text = some m) :
    m.WellFormed := by
  unfold parse? at h
  dsimp only at h
  split at h
  · split at h
    · cases h
    · cases h
      exact wellFormed_of_operand (by simp_all)
  · obtain ⟨value, hvalue, rfl⟩ := Option.map_eq_some_iff.mp h
    -- The empty text is no number.
    have hnone : Binary64.ofText? [] = none := by decide
    refine wellFormed_of_operand fun hempty => ?_
    rw [hempty, hnone] at hvalue
    cases hvalue

end MissingTest

/-- No bound is a NaN. -/
def YRange.WellFormed (r : YRange) : Prop := r.low ≠ some .nan ∧ r.high ≠ some .nan

/-- The values that a bare option restores can be plotted with. -/
structure Defaults.WellFormed (d : Defaults) : Prop where
  style : d.style.text ≠ ""
  lineWidth : d.lineWidth.isFinite = true ∧ 0 < d.lineWidth
  missing : ∀ m, d.missing = some m → m.WellFormed

namespace Config

/-- The values in use of what a bare option restores. -/
def inUse (c : Config) : Defaults :=
  { style := c.style, lineWidth := c.lineWidth, missing := c.missing }

/-- A state that can be plotted. -/
structure WellFormed (c : Config) : Prop where
  window : c.window.start < c.window.stop
  yRange : c.yRange.WellFormed
  selection : c.selection.WellFormed
  inUse : c.inUse.WellFormed
  defaults : c.defaults.WellFormed

end Config

namespace Settings

/-- Settings whose values come from where values of their kinds come from. A selection
is made of items, of which there are some. A style has a name. A test for missing
values has been read from a text. -/
structure Admissible (s : Settings) : Prop where
  selection : ∀ selection, s.selection = some selection →
    ∃ items, items ≠ [] ∧ selection = .ofItems items
  style : ∀ style, s.style = some style → style.text ≠ ""
  missing : ∀ m, s.missing = some m → ∃ text, MissingTest.parse? text = some m

/-- A positive line width is all it takes to build a state. -/
theorem exists_build_eq_ok {s : Settings}
    (h : (s.lineWidth.getD usualLineWidth).isPositive = true) (window : Window) :
    ∃ config, s.build window = .ok config := by
  unfold build
  exact ⟨_, if_pos h⟩

/-- A built state uses the values that it restores, and no value range. -/
theorem of_build {s : Settings} {window : Window} {config : Config}
    (h : s.build window = .ok config) :
    config.window = window ∧ config.yRange = .auto ∧
      config.selection = s.selection.getD .initial ∧
      config.inUse = ⟨s.style.getD usualStyle, s.lineWidth.getD usualLineWidth, s.missing⟩ ∧
      config.defaults = config.inUse ∧ config.lineWidth.isPositive = true := by
  unfold build at h
  dsimp only at h
  split at h
  · cases h
    exact ⟨rfl, rfl, rfl, rfl, rfl, ‹_›⟩
  · cases h

/-- A state that is built can be plotted. -/
theorem wellFormed_of_build {s : Settings} (hs : s.Admissible) {window : Window}
    {config : Config} (h : s.build window = .ok config) : config.WellFormed := by
  obtain ⟨hwindow, hyRange, hselection, hinUse, hdefaults, hpositive⟩ := of_build h
  -- The values in use and those to restore are the same at first.
  have hwellFormed : config.inUse.WellFormed := by
    refine ⟨?_, Binary64.isPositive_iff.mp hpositive, ?_⟩
    · rw [hinUse]
      cases hstyle : s.style with
      | none =>
        show usualStyle.text ≠ ""
        decide
      | some style => exact hs.style style hstyle
    · rw [hinUse]
      intro m hm
      obtain ⟨text, htext⟩ := hs.missing m hm
      exact MissingTest.wellFormed_of_parse? htext
  refine ⟨config.window.start_lt_stop, ?_, ?_, hwellFormed, hdefaults ▸ hwellFormed⟩
  · rw [hyRange]
    exact ⟨nofun, nofun⟩
  · rw [hselection]
    cases hsome : s.selection with
    | none => exact Selection.wellFormed_initial
    | some selection =>
      obtain ⟨items, hitems, rfl⟩ := hs.selection selection hsome
      exact Selection.wellFormed_ofItems hitems

end Settings

end SeriesPlot
