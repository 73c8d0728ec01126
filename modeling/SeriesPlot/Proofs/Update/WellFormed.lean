import SeriesPlot.Proofs.Config.WellFormed
import SeriesPlot.Proofs.Command.Payload
import SeriesPlot.Update

/-!
# `SeriesPlot.Proofs.Update.WellFormed`: commands keep states well-formed

A command changes the selection, the window and the value range at most once each,
then it applies its options in order. `Config.update_config` separates the two, so
that each part has its own lemma. No part touches the values that the bare options
restore (`defaults_update`), and so the three bare options bring them back
(`inUse_update_of_restores`).

* `Config.moved`: the state after the words of a command other than its options. It is the first
  half of an update, and the modules on windows and sequences go on from it.
* `Selection.wellFormed_change`, `OptionChange.wellFormed_foldl_apply`: what is put into the state
  has been checked, and what is restored was checked at first.
* `Config.wellFormed_update`: so a well-formed command keeps a state well-formed.
-/

set_option autoImplicit false

namespace SeriesPlot

namespace Selection

/-- A step selects something even if nothing was selected before. -/
theorem wellFormed_atColumn (s : Selection) (column : Nat) : (s.atColumn column).WellFormed := by
  unfold atColumn
  split
  · exact wellFormed_ofItems (by simp)
  · exact wellFormed_ofItems (by simp_all)

/-- A step of the column leaves a selection well formed, as it stays off the column of the times.
-/
theorem wellFormed_step {s : Selection} (h : s.WellFormed) (set : SourceSet) (forward : Bool) :
    (s.step set forward).1.WellFormed := by
  unfold step
  dsimp only
  split
  · exact h
  · exact wellFormed_atColumn s _

/-- A well-formed change leaves a well-formed selection. -/
theorem wellFormed_change {s : Selection} (h : s.WellFormed) (set : SourceSet)
    {change : SelectionChange} (hchange : change.WellFormed) :
    (s.change set change).1.WellFormed := by
  cases change with
  | select selection => exact hchange
  | next => exact wellFormed_step h set true
  | previous => exact wellFormed_step h set false

end Selection

namespace OptionChange

/-- Options leave alone what the bare ones restore. -/
@[simp] theorem defaults_apply (change : OptionChange) (c : Config) :
    (change.apply c).defaults = c.defaults := by
  cases change <;> rfl

/-- No option changes the defaults. -/
@[simp] theorem defaults_foldl_apply (changes : List OptionChange) (c : Config) :
    (changes.foldl apply c).defaults = c.defaults := by
  induction changes generalizing c with
  | nil => rfl
  | cons change rest ih => rw [List.foldl_cons, ih, defaults_apply]

/-- No option sets a value range. -/
@[simp] theorem yRange_foldl_apply (changes : List OptionChange) (c : Config) :
    (changes.foldl apply c).yRange = c.yRange := by
  induction changes generalizing c with
  | nil => rfl
  | cons change rest ih =>
    rw [List.foldl_cons, ih]
    cases change <;> rfl

/-- An option sets a checked value or restores one of the well-formed initial ones. -/
theorem wellFormed_apply {change : OptionChange} {c : Config} (hchange : change.WellFormed)
    (h : c.WellFormed) : (change.apply c).WellFormed := by
  -- Each option changes one part at most, which is checked or one of the defaults.
  cases change with
  | style s => exact { h with inUse := { h.inUse with style := hchange } }
  | resetStyle => exact { h with inUse := { h.inUse with style := h.defaults.style } }
  | lineWidth width => exact { h with inUse := { h.inUse with lineWidth := hchange } }
  | resetLineWidth => exact { h with inUse := { h.inUse with lineWidth := h.defaults.lineWidth } }
  | missing test =>
    refine { h with inUse := { h.inUse with missing := ?_ } }
    rintro _ ⟨⟩
    exact hchange
  | resetMissing => exact { h with inUse := { h.inUse with missing := h.defaults.missing } }
  | ticks text => exact { h with }
  | toggleTicks => exact { h with }
  | title text => exact { h with }
  | toggleTitle => exact { h with }
  | toggleEcho => exact { h with }
  | unsupported name => exact h
  | invalidValue name value => exact h

/-- Well-formed options leave a well-formed state. -/
theorem wellFormed_foldl_apply {changes : List OptionChange} {c : Config}
    (hchanges : ∀ change ∈ changes, change.WellFormed) (h : c.WellFormed) :
    (changes.foldl apply c).WellFormed := by
  induction changes generalizing c with
  | nil => exact h
  | cons change rest ih =>
    exact ih (fun later hlater => hchanges later (by simp [hlater]))
      (wellFormed_apply (hchanges change (by simp)) h)

end OptionChange

namespace Config

/-- The state after the words of a command other than its options. -/
def moved (c : Config) (set : SourceSet) (command : Command) : Config :=
  { c with
    selection := match command.selection with
      | some change => (c.selection.change set change).1
      | none => c.selection
    window := match command.times with
      | [] => c.window
      | times => (c.window.change set times).1
    yRange := command.yRange.getD c.yRange }

/-- An update is a move and then the options. What becomes due has no effect on the rest
of the state. -/
theorem update_config (c : Config) (set : SourceSet) (command : Command) :
    (c.update set command).config =
      { command.options.foldl OptionChange.apply (c.moved set command) with
        titleDue := (c.update set command).config.titleDue
        ticksDue := (c.update set command).config.ticksDue } := by
  unfold update moved
  -- A command without a selector or without time tokens has a branch of its own.
  cases command.selection <;> cases command.times <;> rfl

/-- The selection and the time tokens of a well-formed command leave a well-formed state. -/
theorem wellFormed_moved {c : Config} (h : c.WellFormed) (set : SourceSet) {command : Command}
    (hcommand : command.WellFormed) : (c.moved set command).WellFormed where
  window := (c.moved set command).window.start_lt_stop
  yRange := by
    show (command.yRange.getD c.yRange).WellFormed
    -- A part that the command does not mention is that of the old state.
    cases hrange : command.yRange with
    | none => exact h.yRange
    | some range => exact hcommand.yRange range hrange
  selection := by
    unfold moved
    dsimp only
    split
    · exact Selection.wellFormed_change h.selection set (hcommand.selection _ ‹_›)
    · exact h.selection
  inUse := { h.inUse with }
  defaults := h.defaults

/-- A well-formed command keeps a state well-formed. -/
theorem wellFormed_update {c : Config} (h : c.WellFormed) (set : SourceSet) {command : Command}
    (hcommand : command.WellFormed) : (c.update set command).config.WellFormed := by
  rw [update_config]
  have hoptions := OptionChange.wellFormed_foldl_apply hcommand.options
    (wellFormed_moved h set hcommand)
  exact { hoptions with }

/-- No command touches what the bare options restore. -/
@[simp] theorem defaults_update (c : Config) (set : SourceSet) (command : Command) :
    (c.update set command).config.defaults = c.defaults := by
  rw [update_config]
  exact OptionChange.defaults_foldl_apply _ _

/-- A command sets the value range that it asks for, and leaves it alone if it asks for none. -/
theorem yRange_update (c : Config) (set : SourceSet) (command : Command) :
    (c.update set command).config.yRange = command.yRange.getD c.yRange := by
  rw [update_config]
  exact OptionChange.yRange_foldl_apply _ _

/-- The bare options bring back the values that have been in use at first. -/
theorem inUse_update_of_restores (c : Config) (set : SourceSet) {command : Command}
    (h : command.options = [.resetStyle, .resetLineWidth, .resetMissing]) :
    (c.update set command).config.inUse = c.defaults := by
  rw [update_config, h]
  rfl

end Config

end SeriesPlot
