import SeriesPlot.Proofs.Directive.Plot
import SeriesPlot.Proofs.Session.Delivered
import SeriesPlot.Proofs.Session.Reading
import SeriesPlot.Proofs.Update.Absolute

/-!
# `SeriesPlot.Proofs.Session.Again`: an absolute line done again

A line that only says what is to be finds it so the second time. `Session.SameAgain` lists what
that means for two steps of one line: they end in the same way, tell the same, leave the same
state and draw the same.

* `Session.update_drawn_again`: the state stays as it is, whatever is due in it.
* `Session.drawn_again`: what is drawn depends on what the first time left owed. After a plot
  nothing is owed, and the plot is drawn again without a directive before it. If nothing could be
  plotted, what is owed is what was due, and the second time is like the first in all respects.
* `Session.sameAgain_effect`: both together, one case for each kind of line.
* `Session.handle_again`: the steps of a session, where the line is typed again or a blank line
  stands for it (`Session.resolve_again`).
-/

set_option autoImplicit false

namespace SeriesPlot.Session

variable {s : Session} {c : Command} {fate : Nat → Delivery}

/-- A state that is drawn a second time has no directive due if it could be plotted the first
time, and it is due in the same directives as before if it could not. -/
theorem drawn_again (s : Session) (config : Config) :
    let first := s.drawn config
    let second := first.drawn { config with titleDue := false, ticksDue := false }
    (∀ p, Plot.ofConfig? first.config s.sources = some p →
      Plot.ofConfig? second.config s.sources =
        some { title := none, ticks := none, draw := p.draw }) ∧
      (Plot.ofConfig? first.config s.sources = none → second.config = first.config) := by
  intro first second
  constructor
  · intro p hplot
    -- A plot leaves nothing owed, so nothing is due the second time.
    have howed : first.owed = {} := by
      show Owed.after first.config s.sources = {}
      rw [Owed.after, hplot]
    have hconfig : second.config = { first.config with titleDue := false, ticksDue := false } := by
      show Config.withDue _ first.owed = _
      rw [howed]
      rfl
    rw [hconfig, Plot.ofConfig?_due, hplot]
    rfl
  · intro hnone
    -- Without a plot all that was due is still owed.
    have howed : first.owed = ⟨first.config.titleDue, first.config.ticksDue⟩ := by
      show Owed.after first.config s.sources = _
      rw [Owed.after, hnone]
    show Config.withDue _ first.owed = _
    rw [howed]
    simp [Config.withDue, first, drawn]

/-- The command does the same to the state that it has led to, whatever is due there. -/
theorem update_drawn_again (h : c.IsAbsolute) (s : Session) :
    (s.drawn (s.config.update s.sources c).config).config.update s.sources c =
      { config := { (s.config.update s.sources c).config with titleDue := false, ticksDue := false }
        notices := (s.config.update s.sources c).notices } := by
  have hconfig : (s.drawn (s.config.update s.sources c).config).config =
      { (s.config.update s.sources c).config with
        titleDue := (s.config.update s.sources c).config.titleDue || s.owed.title
        ticksDue := (s.config.update s.sources c).config.ticksDue || s.owed.ticks } := rfl
  rw [hconfig, Config.update_due, Config.update_update _ _ h]

/-- The user is told the same about the command the second time. -/
theorem told_drawn_again (h : c.IsAbsolute) (s : Session) :
    (s.drawn (s.config.update s.sources c).config).told c = s.told c := by
  unfold told
  show _ ++ String.join (List.map _ ((s.drawn _).config.update s.sources c).notices) = _
  rw [update_drawn_again h]
  rfl

/-- What is remembered has no effect on what a line does. -/
theorem effect_remembering (s : Session) (text : String) (line : Line) :
    { s with previous := text }.effect line =
      { s.effect line with session := { (s.effect line).session with previous := text } } := by
  cases line with
  | blank => rfl
  | quit => rfl
  | verbatim text => rfl
  | command c =>
    unfold effect
    dsimp only
    split <;> rfl

/-- What a step and the next one have in common if both are of the same line and the first of
them is made in `s`. -/
structure SameAgain (s : Session) (line : Line) (first second : Outcome) : Prop where
  result : second.result = first.result
  config : second.session.config = { first.session.config with
    titleDue := second.session.config.titleDue
    ticksDue := second.session.config.ticksDue }
  /-- The same is told about a command; the rest of what is printed is the state. -/
  told : ∀ c, line = .command c →
    (first.session.config.update first.session.sources c).notices =
        (s.config.update s.sources c).notices ∧
      first.printed = s.told c ++ first.session.shownState c ∧
      second.printed = s.told c ++ second.session.shownState c
  not_plotted : (∀ p, .plot p ∉ first.sent) →
    second.printed = first.printed ∧ second.sent = first.sent
  plotted : ∀ p, .plot p ∈ first.sent →
    second.sent = [.plot { title := none, ticks := none, draw := p.draw }]

/-- Lines that are no commands do not touch the state. -/
theorem sameAgain_of_not_command {line : Line} (h : ∀ c, line ≠ .command c)
    {first second : Outcome} (hresult : second.result = first.result)
    (hconfig : second.session.config = first.session.config)
    (hprinted : second.printed = first.printed) (hsent : second.sent = first.sent)
    (hplot : ∀ p, .plot p ∉ first.sent) : SameAgain s line first second where
  result := hresult
  config := by rw [hconfig]
  told c hc := absurd hc (h c)
  not_plotted _ := ⟨hprinted, hsent⟩
  plotted p hp := absurd hp (hplot p)

/-- A command with changes draws the state twice, and the second time nothing new is due. -/
theorem sameAgain_of_hasChanges (h : c.IsAbsolute) (hchanges : c.hasChanges = true)
    (s : Session) :
    SameAgain s (.command c) (conclude (s.effect (.command c)) .goOn)
      (conclude ((s.effect (.command c)).session.effect (.command c)) .goOn) := by
  have hagain := update_drawn_again h s
  have htold := told_drawn_again h s
  obtain ⟨hplotted, hnone⟩ := s.drawn_again (s.config.update s.sources c).config
  rw [effect_of_hasChanges hchanges, effect_of_hasChanges hchanges]
  dsimp only
  -- From here on, what the update leads to plays no part.
  have hnotices : ((s.drawn (s.config.update s.sources c).config).config.update s.sources
      c).notices = (s.config.update s.sources c).notices := by rw [hagain]
  rw [show (s.drawn (s.config.update s.sources c).config).sources = s.sources from rfl, hagain,
    htold]
  generalize hu : s.config.update s.sources c = u at *
  refine { result := rfl, config := rfl, told := ?_, not_plotted := ?_, plotted := ?_ }
  · intro c' hc
    cases hc
    exact ⟨hnotices.trans (congrArg Update.notices hu.symm), rfl, rfl⟩
  · intro hsent
    have hconfig := hnone (Option.eq_none_iff_forall_ne_some.mpr fun p hp =>
      hsent p (List.mem_singleton.mpr (Directive.drawing_eq_plot_iff.mpr hp).symm))
    unfold shownState
    rw [hconfig]
    exact ⟨rfl, rfl⟩
  · intro p hp
    have hplot := hplotted p (Directive.drawing_eq_plot_iff.mp (List.mem_singleton.mp hp).symm)
    exact congrArg (fun d => [d]) (Directive.drawing_eq_plot_iff.mpr hplot)

/-- A line that only says what is to be finds it so when it is done again. -/
theorem sameAgain_effect {line : Line} (h : ∀ c, line = .command c → c.IsAbsolute)
    (s : Session) :
    SameAgain s line (conclude (s.effect line) .goOn)
      (conclude ((s.effect line).session.effect line) .goOn) := by
  cases line with
  | blank => exact sameAgain_of_not_command (by simp) rfl rfl rfl rfl (by simp [conclude, effect])
  | quit => exact sameAgain_of_not_command (by simp) rfl rfl rfl rfl (by simp [conclude, effect])
  | verbatim text =>
    exact sameAgain_of_not_command (by simp) rfl rfl rfl rfl (by simp [conclude, effect])
  | command c =>
    cases hchanges : c.hasChanges with
    | true => exact sameAgain_of_hasChanges (h c rfl) hchanges s
    -- A command without changes draws nothing; it is told about and shown again.
    | false =>
      rw [effect_of_not_hasChanges hchanges, effect_of_not_hasChanges hchanges]
      refine { result := rfl, config := rfl, told := ?_, not_plotted := ?_, plotted := ?_ }
      · intro c' hc
        cases hc
        unfold shownState
        rw [hchanges]
        exact ⟨rfl, (String.append_empty).symm, (String.append_empty).symm⟩
      · exact fun _ => ⟨rfl, rfl⟩
      · exact fun p hp => absurd hp List.not_mem_nil

/-- A line that comes again is taken for what it was taken for, and so is a blank line if the
session goes on after the first time. -/
theorem resolve_again {line again : String} {t : Session} (ht : t.previous = s.resolve line)
    (h : again = line ∨ Text.trim again.toList = []) : t.resolve again = s.resolve line := by
  unfold resolve at ht ⊢
  rw [ht]
  rcases h with rfl | hblank
  · split <;> rfl
  · rw [if_pos hblank]

/-- A line whose words only say what is to be does the same when it is handled again, typed
again or by a blank line after it, in every session whose directives all arrive. -/
theorem handle_again (hfate : ∀ n, fate n = .delivered) (s : Session) {line again : String}
    (habsolute : Line.IsAbsolute (s.resolve line))
    (hagain : again = line ∨
      Text.trim again.toList = [] ∧ (s.handle fate line).goesOn = true) :
    SameAgain s (Line.parse (s.resolve line)) (s.handle fate line)
      ((s.handle fate line).session.handle fate again) := by
  by_cases hquit : Line.parse (s.resolve line) = .quit
  · have hsame : again = line := by
      refine hagain.resolve_right fun h => ?_
      rw [goesOn_handle_of_quit hquit] at h
      exact nomatch h.2
    rw [hsame, hquit, handle_eq_of_quit hquit]
    show SameAgain s .quit _ (s.handle fate line)
    rw [handle_eq_of_quit hquit]
    exact sameAgain_of_not_command (by simp) rfl rfl rfl rfl (by simp [conclude])
  · have hfirst := handle_eq_effect hfate hquit
    dsimp only at hfirst
    have hprevious : (s.handle fate line).session.previous = s.resolve line := by rw [hfirst]
    have hresolve := resolve_again hprevious (hagain.imp id And.left)
    have hsecond := handle_eq_effect hfate (hresolve.symm ▸ hquit)
    rw [hresolve] at hsecond
    have heffect := sameAgain_effect (fun c hc => Line.isAbsolute_of_parse habsolute hc) s
    have hremembering := (s.effect (Line.parse (s.resolve line))).session.effect_remembering
      (s.resolve line) (Line.parse (s.resolve line))
    rw [hsecond, hfirst]
    dsimp only
    rw [hremembering]
    -- The line that is remembered is all in which the step of a line differs from its effect.
    generalize (s.effect (Line.parse (s.resolve line))).session.effect
      (Line.parse (s.resolve line)) = second at heffect ⊢
    generalize s.effect (Line.parse (s.resolve line)) = first at heffect ⊢
    exact { heffect with result := rfl }

/-- The directives before the plot are only sent the first time. -/
theorem handle_again_by_blank_line :
    let fate : Nat → Delivery := fun _ => .delivered
    let s := (sample.start fate).session
    let line := "tb e2013-06-01T05:00 a3 -style=dots,lw,foo y:9"
    let first := s.handle fate line
    let second := first.session.handle fate ""
    Line.IsAbsolute (s.resolve line) ∧ first.goesOn = true ∧
      SameAgain s (Line.parse (s.resolve line)) first second ∧
      ∃ p, first.sent = [.plot p] ∧ p.title = some "set title \"a.csv\"" ∧
        second.sent = [.plot { title := none, ticks := none, draw := p.draw }] := by
  intro fate s line first second
  have habsolute : Line.IsAbsolute (s.resolve line) := by decide +kernel
  have hgoesOn : first.goesOn = true := by decide +kernel
  have hagain : SameAgain s (Line.parse (s.resolve line)) first second :=
    handle_again (fun _ => rfl) s habsolute (.inr ⟨rfl, hgoesOn⟩)
  let p : Plot := {
    title := some "set title \"a.csv\""
    ticks := some "set format x \"%H:%M\\n%d %b\\n%Y\""
    draw := "plot ['2013-06-01 00:00':'2013-06-01 05:00'][:9] " ++
      "'<sed -n \"s/^[0-9]/&/p\" a.csv' u 1:($3) t 'rh' w dots lw 1" }
  have hsent : first.sent = [.plot p] := by decide +kernel
  exact ⟨habsolute, hgoesOn, hagain, p, hsent, rfl, hagain.plotted p (by simp [hsent])⟩

end SeriesPlot.Session
