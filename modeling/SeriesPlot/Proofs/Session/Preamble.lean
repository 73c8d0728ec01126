import SeriesPlot.Proofs.Directive.Plot
import SeriesPlot.Proofs.Session.Run

/-!
# `SeriesPlot.Proofs.Session.Preamble`: the directives that are sent only when due

The title and the labels of the time axis are set before a plot only when they are
due, or owed from a state that could not be drawn. `Preamble` names the two, so that
what follows is said once for both.

The plotter shows what the last plot that set a directive has set. The invariant
`Kept` says how far that is from the current state: either the directive is owed, or
it was last set in a state from which the current one counts as unchanged
(`Preamble.changed`). Whether an unchanged state also has the same directive differs
between the two kinds.

* `Kept.handle`: the step lemma. A step leaves the plot alone or redraws a state, and there is a
  lemma for either.
* `kept_run`: the run lemma, from the first step on (`kept_start`).
* `exists_lastSet_of_plot_mem`: where a plot is sent nothing is owed, so the second case is left.

A fault would break the invariant, because a plot counts as drawn before it is sent.
So the runs here have none. `Proofs/Session/Fault.lean` has those with faults.
-/

set_option autoImplicit false

namespace SeriesPlot

/-- The directives that come before a plot when they are due. -/
inductive Preamble where
  | title
  | ticks
deriving DecidableEq

namespace Preamble

/-- Whether the directive is due in a state. -/
def due : Preamble → Config → Bool
  | title, c => c.titleDue
  | ticks, c => c.ticksDue

/-- Whether the directive is owed. -/
def owed : Preamble → Owed → Bool
  | title, o => o.title
  | ticks, o => o.ticks

/-- The directive before a plot, if the plot sets it. -/
def ofPlot : Preamble → Plot → Option String
  | title, p => p.title
  | ticks, p => p.ticks

/-- The directive that a state asks for. -/
def directive? : Preamble → Config → SourceSet → Option String
  | title, c, set => c.titleDirective? set
  | ticks, c, _ => some c.ticksDirective

/-- Whether an update from one state to another makes the directive due. -/
def changed : Preamble → Config → Config → Bool
  | title => Config.titleChanged
  | ticks => Config.ticksChanged

/-- The directive that a line for the plotter sets. Lines of the user's own do not
count, whatever they say. -/
def setBy? (k : Preamble) : Directive → Option String
  | .plot p => k.ofPlot p
  | _ => none

/-- The directive that was set last by some lines for the plotter. -/
def last? (k : Preamble) (sent : List Directive) : Option String :=
  (sent.filterMap k.setBy?).getLast?

/-- `r` is the last of some outcomes that sets the directive, and it sets the one
that its own state asks for. -/
def LastSet (k : Preamble) (outcomes : List Outcome) (r : Outcome) : Prop :=
  ∃ before after, outcomes = before ++ r :: after ∧
    (∃ text, k.last? r.sent = some text ∧
      k.directive? r.session.config r.session.sources = some text) ∧
    ∀ o ∈ after, k.last? o.sent = none

/-- After some outcomes the directive is owed, or the state counts as unchanged from
the one in which it was set last. -/
def Kept (k : Preamble) (outcomes : List Outcome) (s : Session) : Prop :=
  k.owed s.owed = true ∨
    ∃ r, k.LastSet outcomes r ∧ k.changed r.session.config s.config = false ∧
      r.session.sources = s.sources

/-! ### Due, owed and changed -/

/-- A state counts as unchanged from itself. -/
theorem changed_self (k : Preamble) (c : Config) : k.changed c c = false := by
  cases k <;> simp [changed, Config.titleChanged, Config.ticksChanged]

/-- Changes that do not count do not add up to one that does. -/
theorem changed_trans {k : Preamble} {a b c : Config} (hab : k.changed a b = false)
    (hbc : k.changed b c = false) : k.changed a c = false := by
  cases k <;>
    simp only [changed, Config.titleChanged, Config.ticksChanged, Bool.or_eq_false_iff,
      bne_eq_false_iff_eq, Bool.and_eq_false_iff, beq_eq_false_iff_ne] at * <;>
    grind

/-- An update makes a directive due iff the state changes in what it depends on. -/
theorem due_update (k : Preamble) (c : Config) (set : SourceSet) (command : Command) :
    k.due (c.update set command).config = k.changed c (c.update set command).config := by
  cases k <;> rfl

/-- A built state has both directives due. -/
theorem due_of_build {settings : Settings} {window : Window} {config : Config}
    (h : settings.build window = .ok config) (k : Preamble) : k.due config = true := by
  unfold Settings.build at h
  dsimp only at h
  split at h
  · cases h
    cases k <;> rfl
  · cases h

/-- What is owed becomes due. -/
theorem due_withDue (k : Preamble) (c : Config) (o : Owed) :
    k.due (c.withDue o) = (k.due c || k.owed o) := by
  cases k <;> rfl

/-- Becoming due is no change. -/
theorem changed_withDue (k : Preamble) (c d : Config) (o : Owed) :
    k.changed c (d.withDue o) = k.changed c d := by
  cases k <;> rfl

/-- If nothing can be plotted, what is due is owed from then on. -/
theorem owed_after_of_none {k : Preamble} {c : Config} {set : SourceSet}
    (h : Plot.ofConfig? c set = none) : k.owed (.after c set) = k.due c := by
  unfold Owed.after
  rw [h]
  cases k <;> rfl

/-- A plot sets the directive that its state asks for if it is due, and none if it
is not. -/
theorem ofPlot_eq {k : Preamble} {c : Config} {set : SourceSet} {p : Plot}
    (h : Plot.ofConfig? c set = some p) :
    k.ofPlot p = if k.due c then k.directive? c set else none := by
  rw [Plot.ofConfig?_eq] at h
  split at h
  · cases h
  · cases h
    cases k <;> rfl

/-- A state that is drawn asks for a directive. -/
theorem exists_directive?_eq {k : Preamble} {c : Config} {set : SourceSet} {p : Plot}
    (h : Plot.ofConfig? c set = some p) : ∃ text, k.directive? c set = some text := by
  rw [Plot.ofConfig?_eq] at h
  split at h
  · cases h
  · rename_i hseries
    cases k with
    | title => exact Option.isSome_iff_exists.mp (c.isSome_titleDirective? hseries)
    | ticks => exact ⟨_, rfl⟩

/-! ### What was set last -/

/-- The directive set last is the one set later, if one was set later. -/
theorem last?_append (k : Preamble) (first second : List Directive) :
    k.last? (first ++ second) = (k.last? second).or (k.last? first) := by
  unfold last?
  rw [List.filterMap_append, List.getLast?_append]

/-- Nothing but a plot sets the directive. -/
theorem last?_eq_none_of_no_plot {k : Preamble} {sent : List Directive}
    (h : ∀ p, .plot p ∉ sent) : k.last? sent = none := by
  have hnone : sent.filterMap k.setBy? = [] := by
    rw [List.filterMap_eq_nil_iff]
    intro d hd
    cases d with
    | plot p => exact absurd hd (h p)
    | setup text => rfl
    | empty => rfl
    | verbatim text => rfl
  rw [last?, hnone, List.getLast?_nil]

/-- If no step sets the directive, then all of them together do not. -/
theorem last?_eq_none_of_forall {k : Preamble} {outcomes : List Outcome}
    (h : ∀ o ∈ outcomes, k.last? o.sent = none) :
    k.last? (outcomes.flatMap (·.sent)) = none := by
  induction outcomes with
  | nil => rfl
  | cons o rest ih =>
    rw [List.flatMap_cons, last?_append, ih fun o' ho' => h o' (by simp [ho']),
      h o (by simp), Option.none_or]

/-- The plotter shows what was set last. -/
theorem LastSet.last?_eq {k : Preamble} {outcomes : List Outcome} {r : Outcome}
    (h : k.LastSet outcomes r) :
    k.last? (outcomes.flatMap (·.sent)) =
      k.directive? r.session.config r.session.sources := by
  obtain ⟨before, after, rfl, ⟨text, hlast, hdirective⟩, hafter⟩ := h
  rw [List.flatMap_append, List.flatMap_cons, last?_append, last?_append,
    last?_eq_none_of_forall hafter, hlast, hdirective, Option.none_or, Option.some_or]

/-- An outcome that does not set the directive leaves the one set last. -/
theorem LastSet.append {k : Preamble} {outcomes : List Outcome} {r o : Outcome}
    (h : k.LastSet outcomes r) (ho : k.last? o.sent = none) :
    k.LastSet (outcomes ++ [o]) r := by
  obtain ⟨before, after, rfl, hset, hafter⟩ := h
  refine ⟨before, after ++ [o], by simp, hset, fun o' ho' => ?_⟩
  rcases List.mem_append.mp ho' with ho' | ho'
  · exact hafter o' ho'
  · rwa [List.mem_singleton.mp ho']

/-! ### What a step keeps -/

/-- A step that leaves the plot alone keeps the invariant. -/
theorem Kept.untouched {k : Preamble} {outcomes : List Outcome} {s : Session} {o : Outcome}
    (h : k.Kept outcomes s) (ho : s.Untouched o.session o.sent) :
    k.Kept (outcomes ++ [o]) o.session := by
  -- Nothing that the invariant speaks of changes, but there is one outcome more.
  unfold Kept
  rw [ho.owed, ho.config, ho.sources]
  refine h.imp id fun ⟨r, hlast, hchanged, hsources⟩ => ⟨r, ?_, hchanged, hsources⟩
  exact hlast.append (last?_eq_none_of_no_plot ho.no_plot)

/-- A state that counts as unchanged from the one in which the directive was set last,
drawn by a step that does not set it. -/
theorem Kept.redrawn_of_not_due {k : Preamble} {outcomes : List Outcome} {s : Session}
    {c : Config} {o : Outcome} (h : k.Kept outcomes s)
    (hchanged : k.changed s.config c = false) (howed : k.owed s.owed = false)
    (hsources : o.session.sources = s.sources) (hconfig : o.session.config = c.withDue s.owed)
    (hsent : k.last? o.sent = none) : k.Kept (outcomes ++ [o]) o.session := by
  rcases h with h | ⟨r, hlast, hr, hset⟩
  · rw [howed] at h
    exact nomatch h
  · refine .inr ⟨r, hlast.append hsent, ?_, hset.trans hsources.symm⟩
    rw [hconfig, changed_withDue]
    exact changed_trans hr hchanged

/-- What a redrawing without a fault sets is up to the plot of the state. -/
theorem last?_of_redrawn {k : Preamble} {s t : Session} {c : Config} {sent : List Directive}
    (h : s.Redrawn c t sent true) :
    k.last? sent = (Plot.ofConfig? t.config t.sources).bind k.ofPlot := by
  obtain ⟨earlier, hearlier, rfl⟩ := h.sent
  have hdrawing : k.setBy? (.drawing t.config t.sources) =
      (Plot.ofConfig? t.config t.sources).bind k.ofPlot := by
    unfold Directive.drawing
    cases Plot.ofConfig? t.config t.sources <;> rfl
  rw [if_pos rfl, last?_append, last?_eq_none_of_no_plot hearlier, Option.or_none, ← hdrawing]
  unfold last?
  cases hset : k.setBy? (.drawing t.config t.sources) <;> simp [hset]

/-- Drawing a state keeps the invariant if what has changed in it is due. -/
theorem Kept.redrawn {k : Preamble} {outcomes : List Outcome} {s : Session} {c : Config}
    {o : Outcome} (h : k.due c = true ∨ k.Kept outcomes s ∧ k.changed s.config c = false)
    (ho : s.Redrawn c o.session o.sent o.succeeded) (hsucceeded : o.succeeded = true) :
    k.Kept (outcomes ++ [o]) o.session := by
  rw [hsucceeded] at ho
  have hlast := last?_of_redrawn (k := k) ho
  have hdue : k.due o.session.config = (k.due c || k.owed s.owed) := by
    rw [ho.config, due_withDue]
  -- Where the directive is not due, nothing has changed and nothing was owed.
  have hkept (hnot : k.due o.session.config = false) (hnone : k.last? o.sent = none) :
      k.Kept (outcomes ++ [o]) o.session := by
    obtain ⟨hc, howed⟩ := Bool.or_eq_false_iff.mp (hdue.symm.trans hnot)
    rcases h with h | ⟨h, hchanged⟩
    · rw [hc] at h
      exact nomatch h
    · exact h.redrawn_of_not_due hchanged howed ho.sources ho.config hnone
  cases hplot : Plot.ofConfig? o.session.config o.session.sources with
  | none =>
    -- Nothing is drawn, so what is due becomes owed.
    rw [hplot, Option.bind_none] at hlast
    cases hd : k.due o.session.config with
    | true => exact .inl (by rw [ho.owed, owed_after_of_none hplot, hd])
    | false => exact hkept hd hlast
  | some p =>
    -- The plot sets what is due, and this outcome is then the last that does.
    rw [hplot, Option.bind_some, ofPlot_eq hplot] at hlast
    cases hd : k.due o.session.config with
    | true =>
      rw [hd, if_pos rfl] at hlast
      obtain ⟨text, htext⟩ := k.exists_directive?_eq hplot
      refine .inr ⟨o, ⟨outcomes, [], rfl, ⟨text, ?_, htext⟩, by simp⟩, changed_self k _, rfl⟩
      rw [hlast, htext]
    | false =>
      rw [hd] at hlast
      exact hkept hd hlast

/-- The step lemma: a line that succeeds keeps the invariant. -/
theorem Kept.handle {k : Preamble} {outcomes : List Outcome} {s : Session}
    {fate : Nat → Delivery} {input : String} (h : k.Kept outcomes s)
    (hsucceeded : (s.handle fate input).succeeded = true) :
    k.Kept (outcomes ++ [s.handle fate input]) (s.handle fate input).session := by
  rcases s.handle_cases fate input with ⟨-, ho⟩ | ⟨c, -, -, ho⟩
  · exact h.untouched ho
  · -- An update makes due exactly what it changes, so one of the two assumptions holds.
    refine Kept.redrawn ?_ ho hsucceeded
    cases hchanged : k.changed s.config (s.config.update s.sources c).config with
    | true => exact .inl (by rw [due_update, hchanged])
    | false => exact .inr ⟨h, rfl⟩

/-- The first step establishes the invariant, as both directives are due at first. -/
theorem kept_start {k : Preamble} {s : Session} {fate : Nat → Delivery}
    (hdue : k.due s.config = true) (hsucceeded : (s.start fate).succeeded = true) :
    k.Kept [s.start fate] (s.start fate).session := by
  rcases s.start_cases fate with ⟨-, hfailed⟩ | ho
  · rw [hsucceeded] at hfailed
    exact nomatch hfailed
  · have hkept : k.Kept ([] ++ [s.start fate]) (s.start fate).session :=
      Kept.redrawn (.inl hdue) ho hsucceeded
    exact hkept

/-- A run without a fault keeps the invariant, if it starts with the directive due. -/
theorem kept_run {k : Preamble} {s : Session} {fate : Nat → Delivery} {inputs : List String}
    {before after : List Outcome} {o : Outcome} (hdue : k.due s.config = true)
    (hrun : s.run fate inputs = before ++ o :: after)
    (hsucceeded : ∀ r ∈ before ++ [o], r.succeeded = true) :
    k.Kept (before ++ [o]) o.session := by
  -- The absence of faults is about the outcomes so far, so it is part of what is proved.
  refine Session.run_induction
    (motive := fun outcomes t => (∀ r ∈ outcomes, r.succeeded = true) → k.Kept outcomes t)
    ?_ ?_ hrun hsucceeded
  · intro h
    exact kept_start hdue (h _ (by simp))
  · intro outcomes t input ih h
    exact (ih fun r hr => h r (by simp [hr])).handle (h _ (by simp))

/-- Where a run without a fault sends a plot, the directive was set last in a state from
which the plotted one counts as unchanged, with this plot or before it. -/
theorem exists_lastSet_of_plot_mem {k : Preamble} {s : Session} {fate : Nat → Delivery}
    {inputs : List String} {before after : List Outcome} {o : Outcome}
    (hdue : k.due s.config = true) (hrun : s.run fate inputs = before ++ o :: after)
    (hsucceeded : ∀ r ∈ before ++ [o], r.succeeded = true) {p : Plot} (hp : .plot p ∈ o.sent) :
    ∃ r, k.LastSet (before ++ [o]) r ∧
      k.changed r.session.config o.session.config = false ∧
      r.session.sources = s.sources := by
  obtain ⟨-, howed, -⟩ := Session.drawn_of_plot_mem hrun hp
  rcases kept_run hdue hrun hsucceeded with h | ⟨r, hset, hchanged, hsources⟩
  · -- A plot leaves nothing owed.
    rw [howed] at h
    cases k <;> exact nomatch h
  · exact ⟨r, hset, hchanged, hsources.trans (Session.sources_run hrun)⟩

end Preamble

end SeriesPlot
