import SeriesPlot.Proofs.Session.Title

/-!
# `SeriesPlot.Proofs.Session.Fault`: directives that are lost with a plot

A plot counts as drawn before it is sent. If sending it fails, the directives before it are
neither sent nor owed: they are lost (`Preamble.Loses`). The same happens to what is due at
first if preparing the plotter fails. All other faults lose nothing, as a step that draws
nothing notes what is owed before it sends anything.

So the invariant of `Proofs/Session/Preamble.lean` gets a third case (`KeptOrLost`). The
directive is owed, or it was last set in a state from which the current one counts as
unchanged, or it was lost in such a state and not set since.

* `KeptOrLost.handle`: the step lemma. A step that leaves the plot alone keeps the case that holds,
  and one that redraws moves between the cases (`KeptOrLost.redrawn`).
* `keptOrLost_run`: a run keeps the invariant, whatever becomes of the directives.
* `Session.title_stale_iff_lost`: where a plot is sent nothing is owed, so the other two cases
  settle whether the plotter shows the title of the plotted state.
-/

set_option autoImplicit false

namespace SeriesPlot

namespace Preamble

/-- After some earlier outcomes, a step that fails loses the directive: it was owed before or
the state has changed, and it is not owed any more. Before the first step, it is due. -/
def Loses (k : Preamble) (earlier : List Outcome) (lost : Outcome) : Prop :=
  lost.succeeded = false ∧ k.owed lost.session.owed = false ∧
    ∀ q ∈ earlier.getLast?, k.owed q.session.owed = true ∨
      k.changed q.session.config lost.session.config = true

/-- The directive was lost in a state from which the current one counts as unchanged, and it
has not been set since. -/
def LostSince (k : Preamble) (outcomes : List Outcome) (s : Session) : Prop :=
  ∃ earlier lost later, outcomes = earlier ++ lost :: later ∧ k.Loses earlier lost ∧
    (∀ o ∈ later, k.last? o.sent = none) ∧
    k.changed lost.session.config s.config = false ∧ lost.session.sources = s.sources

/-- How far the directive on display can be from the current state, whatever becomes of the
directives. -/
def KeptOrLost (k : Preamble) (outcomes : List Outcome) (s : Session) : Prop :=
  k.Kept outcomes s ∨ k.LostSince outcomes s

variable {k : Preamble} {outcomes : List Outcome} {s : Session} {o : Outcome}

/-! ### What was lost -/

/-- What was lost stays lost through a step that neither sets it nor changes what it depends on.
-/
theorem LostSince.append (h : k.LostSince outcomes s) (hset : k.last? o.sent = none)
    (hchanged : k.changed s.config o.session.config = false)
    (hsources : o.session.sources = s.sources) : k.LostSince (outcomes ++ [o]) o.session := by
  obtain ⟨earlier, lost, later, rfl, hloses, hlater, hsince, hsame⟩ := h
  exact ⟨earlier, lost, later ++ [o], by simp, hloses,
    List.forall_mem_append.mpr ⟨hlater, List.forall_mem_singleton.mpr hset⟩,
    changed_trans hsince hchanged, hsame.trans hsources.symm⟩

/-- What a step loses is lost after it. -/
theorem lostSince_of_loses (h : k.Loses outcomes o) : k.LostSince (outcomes ++ [o]) o.session :=
  ⟨outcomes, o, [], rfl, h, by simp, changed_self k _, rfl⟩

/-- What does not set the directive leaves the one set before. -/
theorem last?_append_of_none {earlier later : List Outcome}
    (hlater : ∀ r ∈ later, k.last? r.sent = none) :
    k.last? ((earlier ++ later).flatMap (·.sent)) = k.last? (earlier.flatMap (·.sent)) := by
  rw [List.flatMap_append, last?_append, last?_eq_none_of_forall hlater, Option.none_or]

/-! ### What a step keeps -/

/-- A redrawing that fails sets nothing, since its plot is not sent. -/
theorem last?_eq_none_of_redrawn_of_failed {c : Config}
    (h : s.Redrawn c o.session o.sent o.succeeded) (hfailed : o.succeeded = false) :
    k.last? o.sent = none := by
  obtain ⟨earlier, hearlier, hsent⟩ := h.sent
  rw [hfailed] at hsent
  rw [hsent]
  simpa using last?_eq_none_of_no_plot hearlier

/-- A redrawing sets the directive only if it is due. -/
theorem last?_eq_none_of_redrawn {c : Config} (h : s.Redrawn c o.session o.sent o.succeeded)
    (hdue : k.due o.session.config = false) : k.last? o.sent = none := by
  cases hsucceeded : o.succeeded with
  | false => exact last?_eq_none_of_redrawn_of_failed h hsucceeded
  | true =>
    rw [hsucceeded] at h
    rw [last?_of_redrawn h]
    cases hplot : Plot.ofConfig? o.session.config o.session.sources with
    | none => rfl
    | some p => rw [Option.bind_some, ofPlot_eq hplot, hdue]; rfl

/-- A step after which the state counts as unchanged, with nothing owed and nothing set. -/
theorem KeptOrLost.append (h : k.KeptOrLost outcomes s) (howed : k.owed s.owed = false)
    (hset : k.last? o.sent = none) (hchanged : k.changed s.config o.session.config = false)
    (hsources : o.session.sources = s.sources) :
    k.KeptOrLost (outcomes ++ [o]) o.session := by
  rcases h with (h | ⟨r, hlast, hr, hsame⟩) | h
  · rw [howed] at h
    exact nomatch h
  · exact .inl (.inr ⟨r, hlast.append hset, changed_trans hr hchanged,
      hsame.trans hsources.symm⟩)
  · exact .inr (h.append hset hchanged hsources)

/-- A step that leaves the plot alone keeps the invariant. -/
theorem KeptOrLost.untouched (h : k.KeptOrLost outcomes s)
    (ho : s.Untouched o.session o.sent) : k.KeptOrLost (outcomes ++ [o]) o.session := by
  refine h.imp (·.untouched ho) fun h => ?_
  exact h.append (last?_eq_none_of_no_plot ho.no_plot) (ho.config ▸ changed_self k _) ho.sources

/-- Drawing a state keeps the invariant if what has changed in it is due. The directive may
get lost if the step fails. -/
theorem KeptOrLost.redrawn {c : Config} (h : k.KeptOrLost outcomes s)
    (hprevious : ∀ q ∈ outcomes.getLast?, q.session = s)
    (hdue : k.due c = k.changed s.config c)
    (ho : s.Redrawn c o.session o.sent o.succeeded) :
    k.KeptOrLost (outcomes ++ [o]) o.session := by
  have hchanged : k.changed s.config o.session.config = k.changed s.config c := by
    rw [ho.config, changed_withDue]
  have hdue' : k.due o.session.config = (k.changed s.config c || k.owed s.owed) := by
    rw [ho.config, due_withDue, hdue]
  cases hnew : k.changed s.config c || k.owed s.owed with
  | false =>
    obtain ⟨hsame, howed⟩ := Bool.or_eq_false_iff.mp hnew
    have hset := last?_eq_none_of_redrawn ho (hdue'.trans hnew)
    exact h.append howed hset (hchanged.trans hsame) ho.sources
  | true =>
    cases hsucceeded : o.succeeded with
    | true =>
      -- What is due is set or owed, whatever was lost before.
      refine .inl (Kept.redrawn ?_ ho hsucceeded)
      cases hsame : k.changed s.config c with
      | true => exact .inl (hdue.trans hsame)
      | false =>
        rw [hsame, Bool.false_or] at hnew
        exact .inr ⟨.inl hnew, rfl⟩
    | false =>
      cases howed : k.owed o.session.owed with
      | true => exact .inl (.inl howed)
      | false =>
        refine .inr (lostSince_of_loses ⟨hsucceeded, howed, fun q hq => ?_⟩)
        rw [hprevious q hq, hchanged]
        exact (Bool.or_eq_true_iff.mp hnew).symm

/-- The step lemma: a line keeps the invariant, whatever becomes of the directives. -/
theorem KeptOrLost.handle (h : k.KeptOrLost outcomes s)
    (hprevious : ∀ q ∈ outcomes.getLast?, q.session = s) (fate : Nat → Delivery)
    (input : String) :
    k.KeptOrLost (outcomes ++ [s.handle fate input]) (s.handle fate input).session := by
  rcases s.handle_cases fate input with ⟨-, ho⟩ | ⟨c, -, -, ho⟩
  · exact h.untouched ho
  · exact h.redrawn hprevious (k.due_update s.config s.sources c) ho

/-- The first step establishes it: what is due at first is set, owed or lost. -/
theorem keptOrLost_start (hdue : k.due s.config = true) (fate : Nat → Delivery) :
    k.KeptOrLost [s.start fate] (s.start fate).session := by
  cases hsucceeded : (s.start fate).succeeded with
  | true => exact .inl (kept_start hdue hsucceeded)
  | false =>
    cases howed : k.owed (s.start fate).session.owed with
    | true => exact .inl (.inl howed)
    | false =>
      have hloses : k.Loses [] (s.start fate) := ⟨hsucceeded, howed, by simp⟩
      exact .inr (lostSince_of_loses hloses)

/-- The invariant of a run, whatever becomes of the directives. -/
theorem keptOrLost_run {fate : Nat → Delivery} {inputs : List String}
    {before after : List Outcome} (hdue : k.due s.config = true)
    (hrun : s.run fate inputs = before ++ o :: after) :
    k.KeptOrLost (before ++ [o]) o.session := by
  -- That the session before a step is the one of the last outcome is proved along with it.
  have h : k.KeptOrLost (before ++ [o]) o.session ∧
      ∀ q ∈ (before ++ [o]).getLast?, q.session = o.session := by
    refine Session.run_induction (motive := fun outcomes t =>
      k.KeptOrLost outcomes t ∧ ∀ q ∈ outcomes.getLast?, q.session = t) ?_ ?_ hrun
    · exact ⟨keptOrLost_start hdue fate, by simp⟩
    · intro outcomes t input ⟨ih, hprevious⟩
      exact ⟨ih.handle hprevious fate input, by simp⟩
  exact h.1

/-- A step of a run that fails does not set the directive. -/
theorem last?_eq_none_of_failed {fate : Nat → Delivery} {inputs : List String}
    {before after : List Outcome} (hrun : s.run fate inputs = before ++ o :: after)
    (hfailed : o.succeeded = false) : k.last? o.sent = none := by
  rcases Session.eq_start_or_exists_handle_of_run hrun with rfl | ⟨t, input, rfl⟩
  · rcases s.start_cases fate with ⟨h, -⟩ | h
    · exact last?_eq_none_of_no_plot h.no_plot
    · exact last?_eq_none_of_redrawn_of_failed h hfailed
  · rcases t.handle_cases fate input with ⟨-, h⟩ | ⟨_, -, -, h⟩
    · exact last?_eq_none_of_no_plot h.no_plot
    · exact last?_eq_none_of_redrawn_of_failed h hfailed

/-- What is on display after a directive was lost and not set again is what was set before. -/
theorem last?_eq_of_lost {fate : Nat → Delivery} {inputs : List String}
    {outcomes after earlier later : List Outcome} {lost : Outcome}
    (hrun : s.run fate inputs = outcomes ++ after)
    (hsplit : outcomes = earlier ++ lost :: later) (hfailed : lost.succeeded = false)
    (hlater : ∀ r ∈ later, k.last? r.sent = none) :
    k.last? (outcomes.flatMap (·.sent)) = k.last? (earlier.flatMap (·.sent)) := by
  subst hsplit
  rw [List.append_assoc, List.cons_append] at hrun
  have hlost : k.last? lost.sent = none := last?_eq_none_of_failed hrun hfailed
  exact last?_append_of_none (List.forall_mem_cons.mpr ⟨hlost, hlater⟩)

end Preamble

namespace Session

/-- In a run with faults, a plot shows the title of the plotted state unless that title was
lost. Then some step failed with it due and left it neither sent nor owed, no title has been
set since, and the one set before that step, if there is one, is another. -/
theorem title_stale_iff_lost {set : SourceSet} {settings : Settings} {window : Window}
    {config : Config} (hbuild : settings.build window = .ok config)
    {fate : Nat → Delivery} {inputs : List String} {before after : List Outcome} {o : Outcome}
    (hrun : run { sources := set, config } fate inputs = before ++ o :: after)
    {p : Plot} (hp : .plot p ∈ o.sent) :
    ∃ directive scratch, Plot.fromScratch? o.session.config set = some scratch ∧
      scratch.title = some directive ∧
      (Preamble.title.last? ((before ++ [o]).flatMap (·.sent)) ≠ some directive ↔
        ∃ earlier lost later, before ++ [o] = earlier ++ lost :: later ∧
          Preamble.title.Loses earlier lost ∧
          (∀ r ∈ later, Preamble.title.last? r.sent = none) ∧
          lost.session.config.titleDirective? set = some directive ∧
          Preamble.title.last? (earlier.flatMap (·.sent)) ≠ some directive) := by
  obtain ⟨hplot, howed, -⟩ := drawn_of_plot_mem hrun hp
  obtain ⟨directive, hdirective⟩ := Preamble.exists_directive?_eq (k := .title) hplot
  have hrun' : run { sources := set, config } fate inputs = (before ++ [o]) ++ after := by
    rw [hrun, List.append_assoc, List.singleton_append]
  refine ⟨directive, _, Plot.fromScratch?_eq hplot, hdirective, ?_, ?_⟩
  · intro hstale
    rcases Preamble.keptOrLost_run (Preamble.due_of_build hbuild .title) hrun with
      (h | ⟨r, hset, hchanged, hsources⟩) |
        ⟨earlier, lost, later, hsplit, hloses, hlater, hchanged, hsources⟩
    · -- A plot leaves nothing owed.
      rw [howed] at h
      exact nomatch h
    · -- The title that was set last is the current one.
      refine absurd ?_ hstale
      calc Preamble.title.last? ((before ++ [o]).flatMap (·.sent))
          = r.session.config.titleDirective? r.session.sources := hset.last?_eq
        _ = o.session.config.titleDirective? set := by
            rw [Config.titleDirective?_eq_of_not_changed hchanged, hsources, sources_run hrun]
        _ = some directive := hdirective
    · refine ⟨earlier, lost, later, hsplit, hloses, hlater, ?_, ?_⟩
      · rw [Config.titleDirective?_eq_of_not_changed hchanged]
        exact hdirective
      · rwa [← Preamble.last?_eq_of_lost hrun' hsplit hloses.1 hlater]
  · rintro ⟨earlier, lost, later, hsplit, hloses, hlater, -, hearlier⟩
    rwa [Preamble.last?_eq_of_lost hrun' hsplit hloses.1 hlater]

/-- Sending the empty line fails for a state with a new title and nothing to plot. The title
is still owed then, and the next plot shows it. -/
theorem title_stale_iff_lost_after_no_series :
    ({} : Settings).build sample.config.window = .ok sample.config ∧
      ∃ before o p,
        sample.run (fun n => if n = 10 then .failed else .delivered)
          ["-title='fixed' q2", "a2"] = before ++ o :: [] ∧
        .plot p ∈ o.sent ∧ (∃ r ∈ before, r.succeeded = false) ∧
        Preamble.title.last? ((before ++ [o]).flatMap (·.sent)) = some "set title 'fixed'" := by
  obtain ⟨before, o, p, hrun, hp, hfault, hall, htitle⟩ : ∃ before o p,
      sample.run (fun n => if n = 10 then .failed else .delivered)
        ["-title='fixed' q2", "a2"] = before ++ o :: [] ∧
      .plot p ∈ o.sent ∧ (∃ r ∈ before, r.succeeded = false) ∧
      (∀ r ∈ before ++ [o], r.succeeded = true ∨ r.session.owed.title = true) ∧
      (Plot.fromScratch? o.session.config sample.sources).bind Plot.title =
        some "set title 'fixed'" :=
    ⟨[_, _], _, {
      title := "set title 'fixed'"
      ticks := none
      draw := "plot ['2013-06-01 00:00':'2013-06-01 10:00'][:] " ++
        "'<sed -n \"s/^[0-9]/&/p\" a.csv' u 1:($2) t 'temp' w lines lw 1" },
      rfl, by decide +kernel, by decide +kernel, by decide +kernel, by decide +kernel⟩
  obtain ⟨directive, scratch, hscratch, hdirective, hiff⟩ :=
    title_stale_iff_lost build_sample hrun hp
  -- The step that fails does not lose the title.
  have hcurrent : Preamble.title.last? ((before ++ [o]).flatMap (·.sent)) = some directive := by
    apply Classical.byContradiction
    intro hstale
    obtain ⟨earlier, lost, later, hsplit, ⟨hfailed, hnot, -⟩, -⟩ := hiff.mp hstale
    rcases hall lost (hsplit ▸ by simp) with h | h
    · exact Bool.false_ne_true (hfailed.symm.trans h)
    · exact Bool.false_ne_true (hnot.symm.trans h)
  have hfixed : some directive = some "set title 'fixed'" :=
    hdirective.symm.trans ((congrArg (·.bind Plot.title) hscratch).symm.trans htitle)
  exact ⟨build_sample, before, o, p, hrun, hp, hfault, hcurrent.trans hfixed⟩

/-- Sending the plot with a new title fails. The next plot does not set the title, though it
is still to be shown, and what is on display is the title before. -/
theorem title_lost_with_plot :
    ({} : Settings).build sample.config.window = .ok sample.config ∧
      ∃ before o p,
        sample.run (fun n => if n = 10 then .failed else .delivered)
          ["-title='x'", "a3"] = before ++ o :: [] ∧
        .plot p ∈ o.sent ∧
        (Plot.fromScratch? o.session.config sample.sources).bind Plot.title =
          some "set title 'x'" ∧
        Preamble.title.last? ((before ++ [o]).flatMap (·.sent)) =
          some "set title \"a.csv\"" :=
  ⟨build_sample, [_, _], _, {
      title := none
      ticks := none
      draw := "plot ['2013-06-01 00:00':'2013-06-01 10:00'][:] " ++
        "'<sed -n \"s/^[0-9]/&/p\" a.csv' u 1:($3) t 'rh' w lines lw 1" },
    rfl, by decide +kernel, by decide +kernel, by decide +kernel⟩

end Session

end SeriesPlot
