import SeriesPlot.Proofs.Command.ValueRange
import SeriesPlot.Proofs.Directive.Plot
import SeriesPlot.Proofs.Session.WellFormed

/-!
# `SeriesPlot.Proofs.Session.ValueRange`: the value range of a plot, as it is written

The value range of a state is the last one that the lines so far have asked for, and both the
state and its plot are written with it.

* `Session.ReachableBy`: the sessions that follow on a session when some lines are typed. These
  are all that can be reached (`Session.reachable_iff`), but the lines are kept.
* `Session.yRange_handle`: the step lemma. A line sets the last value range that it asks for.
* `Session.ReachableBy.yRange`: the run lemma, by induction on how the session is reached.
* `Session.value_range_of_numerals_iff`: so states and plots are written with numerals as long as
  no bound is `2 ^ 1024 - 2 ^ 970` or more.
* `Session.value_range_of_infinity`: larger bounds are accepted too, and they are written
  with a name that the plotter does not know.
-/

set_option autoImplicit false

namespace SeriesPlot

open SeriesPlot.Text

namespace Session

/-- The sessions that can follow on a session when some lines are typed, by first steps and the
steps of the lines. A blank line counts as the line that it stands for. -/
inductive ReachableBy (s : Session) : List String → Session → Prop
  | refl : ReachableBy s [] s
  | start {lines : List String} {t : Session} (h : ReachableBy s lines t)
      (fate : Nat → Delivery) : ReachableBy s lines (t.start fate).session
  | handle {lines : List String} {t : Session} (h : ReachableBy s lines t)
      (fate : Nat → Delivery) (input : String) :
      ReachableBy s (lines ++ [t.resolve input]) (t.handle fate input).session

/-- These are all the sessions that can be reached. -/
theorem reachable_iff {s t : Session} : Reachable s t ↔ ∃ lines, ReachableBy s lines t := by
  constructor
  · intro h
    -- Both relations have the same steps, and the second one keeps the lines.
    induction h with
    | refl => exact ⟨[], .refl⟩
    | start _ fate ih =>
      obtain ⟨lines, h⟩ := ih
      exact ⟨lines, h.start fate⟩
    | handle _ fate input ih =>
      obtain ⟨lines, h⟩ := ih
      exact ⟨_, h.handle fate input⟩
  · rintro ⟨lines, h⟩
    induction h with
    | refl => exact .refl
    | start _ fate ih => exact ih.start fate
    | handle _ fate input ih => exact ih.handle fate input

/-- The first step leaves the value range as it is. -/
theorem yRange_start (s : Session) (fate : Nat → Delivery) :
    (s.start fate).session.config.yRange = s.config.yRange := by
  rcases s.start_cases fate with ⟨h, -⟩ | h
  · rw [h.config]
  · rw [h.config]
    rfl

/-- The step lemma: a line sets the last value range that it asks for, and leaves the one that is
set if it asks for none. -/
theorem yRange_handle (s : Session) (fate : Nat → Delivery) (input : String) :
    (s.handle fate input).session.config.yRange =
      (Line.askedRanges (s.resolve input)).getLast?.getD s.config.yRange := by
  rcases s.handle_cases fate input with ⟨hnone, h⟩ | ⟨command, hline, -, h⟩
  · rw [h.config]
    -- A command without changes asks for no range, and another line cannot ask for one.
    cases hline : Line.parse (s.resolve input) with
    | command command =>
      have hchanges := hnone command hline
      simp only [Command.hasChanges, Bool.or_eq_false_iff, Option.isSome_eq_false_iff,
        Option.isNone_iff_eq_none] at hchanges
      rw [← Line.yRange_of_parse hline, hchanges.1.2]
      rfl
    | _ => rw [Line.askedRanges_of_parse_ne (by simp [hline])]; rfl
  · rw [h.config, ← Line.yRange_of_parse hline]
    exact Config.yRange_update _ _ _

/-- The run lemma: the last value range that some lines ask for is the one that is set. -/
theorem ReachableBy.yRange {s t : Session} {lines : List String} (h : ReachableBy s lines t) :
    t.config.yRange = (lines.flatMap Line.askedRanges).getLast?.getD s.config.yRange := by
  induction h with
  | refl => rfl
  | start _ fate ih => rw [yRange_start, ih]
  | handle _ fate input ih =>
    rw [yRange_handle, ih, List.flatMap_append, List.getLast?_append, Option.getD_or,
      List.flatMap_singleton]

/-- A line that is not blank stands for itself. -/
theorem ReachableBy.handle_line {s t : Session} {lines : List String}
    (h : ReachableBy s lines t) (fate : Nat → Delivery) (line : String)
    (hline : trim line.toList ≠ []) :
    ReachableBy s (lines ++ [line]) (t.handle fate line).session := by
  have hstep := h.handle fate line
  rwa [resolve, if_neg hline] at hstep

/-- A value range that is typed alone is set, and nothing else is changed. -/
theorem config_handle_word (s : Session) (fate : Nat → Delivery) (typed : YRange.Typed) :
    (s.handle fate (String.ofList typed.word)).session.config =
      (s.config.update s.sources { yRange := some typed.range }).config.withDue s.owed := by
  have hresolve : s.resolve (String.ofList typed.word) = String.ofList typed.word :=
    if_neg typed.trim_toList_ne_nil
  refine config_handle ?_ rfl fate
  rw [hresolve]
  exact Line.parse_word typed

end Session

/-- The value range stands after the window in the text of a state. -/
theorem Config.exists_text_eq (c : Config) :
    ∃ rest, c.text = "\x7bshow: " ++ (if c.echo then "true" else "false") ++ ", x: " ++
      c.window.text ++ ", y: [" ++ c.yRange.text ++ "], vars: " ++ rest := by
  unfold Config.text
  simp only [String.append_assoc]
  exact ⟨_, rfl⟩

/-- It stands after the window in a plot as well. -/
theorem Plot.exists_draw_eq {c : Config} {set : SourceSet} {p : Plot}
    (hplot : ofConfig? c set = some p) :
    ∃ rest, p.draw = "plot ['" ++ c.window.start.minuteText ++ "':'" ++
      c.window.stop.minuteText ++ "'][" ++ c.yRange.text ++ "] " ++ rest := by
  rw [ofConfig?_eq] at hplot
  split at hplot
  · cases hplot
  · cases hplot
    simp only [Config.drawDirective, String.append_assoc]
    exact ⟨_, rfl⟩

namespace Session

/-- A word is read as a value range iff it is typed as one, whatever the size of its bounds,
and a bound that is too large is read as an infinity. Every session that can be reached is one
that some lines lead to, and the value range of its state is the last one that is typed in them.
The texts of the state and of its plot have it with numerals around a colon iff no bound of it
is too large. -/
theorem value_range_of_numerals_iff {settings : Settings} {window : Window} {config : Config}
    (hbuild : settings.build window = .ok config) (set : SourceSet) :
    (∀ word r, Intent.ofWord word = .yRange r ↔
        ∃ typed : YRange.Typed, typed.word = word ∧ typed.range = r) ∧
      (∀ typed : YRange.Typed, typed.range.IsFinite ↔
        (∀ n ∈ typed.low, ¬n.Overflows) ∧ ∀ n ∈ typed.high, ¬n.Overflows) ∧
      (∀ n : Shift.Numeral, n.Overflows → n.value = .infinite n.negative) ∧
      (∀ typed : YRange.Typed, Line.askedRanges (String.ofList typed.word) = [typed.range]) ∧
      (∀ line, ∀ r ∈ Line.askedRanges line,
        ∃ typed : YRange.Typed, typed.word ∈ words (trim line.toList) ∧ typed.range = r) ∧
      (∀ t, Reachable { sources := set, config } t ↔
        ∃ lines, ReachableBy { sources := set, config } lines t) ∧
      ∀ lines t, ReachableBy { sources := set, config } lines t →
        t.config.yRange = (lines.flatMap Line.askedRanges).getLast?.getD .auto ∧
        (∃ rest, t.config.text = "\x7bshow: " ++ (if t.config.echo then "true" else "false") ++
          ", x: " ++ t.config.window.text ++ ", y: [" ++ t.config.yRange.text ++
          "], vars: " ++ rest) ∧
        (∀ p, Plot.ofConfig? t.config t.sources = some p →
          ∃ rest, p.draw = "plot ['" ++ t.config.window.start.minuteText ++ "':'" ++
            t.config.window.stop.minuteText ++ "'][" ++ t.config.yRange.text ++ "] " ++ rest) ∧
        (YRange.IsOfNumerals t.config.yRange.text.toList ↔ t.config.yRange.IsFinite) := by
  refine ⟨fun word r => Intent.ofWord_eq_yRange_iff, YRange.Typed.isFinite_range_iff, ?_,
    Line.askedRanges_word, fun line r => Line.exists_typed_of_mem_askedRanges,
    fun t => reachable_iff, ?_⟩
  · intro n hoverflows
    rcases n.value_cases with ⟨-, hvalue⟩ | ⟨hmoderate, -⟩
    · exact hvalue
    · exact absurd hoverflows hmoderate
  · intro lines t ht
    obtain ⟨-, hauto, -⟩ := Settings.of_build hbuild
    -- The state is built with open ends, and from there on the lines decide.
    have hyRange := ht.yRange
    dsimp only at hyRange
    rw [hauto] at hyRange
    exact ⟨hyRange, t.config.exists_text_eq, fun p => Plot.exists_draw_eq,
      t.config.yRange.isOfNumerals_text_iff⟩

/-- A range that is typed with numbers of usual size is written with numerals, also after a
line that asks for no range. -/
theorem value_range_of_numerals_iff_of_fraction :
    ({} : Settings).build sample.config.window = .ok sample.config ∧
      ∃ t, ReachableBy sample ["y-.5,10", "a3"] t ∧ t.config.yRange.text = "-0.5:10" ∧
        YRange.IsOfNumerals t.config.yRange.text.toList := by
  obtain ⟨t, hreach⟩ : ∃ t, ReachableBy sample ["y-.5,10", "a3"] t :=
    ⟨_, (ReachableBy.refl.handle_line (fun _ => .delivered) "y-.5,10" (by decide)).handle_line
      (fun _ => .delivered) "a3" (by decide)⟩
  obtain ⟨-, -, -, -, -, -, hruns⟩ := value_range_of_numerals_iff build_sample sample.sources
  obtain ⟨hyRange, -, -, hnumerals⟩ := hruns _ t hreach
  have htyped : t.config.yRange = ⟨some (-0.5), some 10⟩ := hyRange.trans (by decide +kernel)
  refine ⟨build_sample, t, hreach, ?_, hnumerals.mpr ?_⟩
  · rw [htyped]
    decide +kernel
  · rw [htyped]
    exact ⟨by decide +kernel, by decide +kernel⟩

/-- The number of as many nines as needed. -/
def nines (count : Nat) (hcount : count ≠ 0) : Shift.Numeral where
  negative := false
  whole := List.replicate count '9'
  fraction := none
  allDigits := by
    rintro c hc
    rw [Option.getD_none, List.append_nil] at hc
    rw [List.eq_of_mem_replicate hc]
    decide
  ne_nil := by simp [hcount]

/-- A range without a bound above. -/
def typedNines : YRange.Typed where
  low := some (nines 309 (by decide))
  upper := none
  isPunctuation := nofun
  isSeparator := nofun

/-- There is no finite number that is so large. The word is read as a range all the same, and
the plot of the next state has the name of an infinity in it. -/
theorem value_range_of_infinity :
    typedNines.word = 'y' :: List.replicate 309 '9' ∧
      Intent.ofWord typedNines.word = .yRange ⟨some (.infinite false), none⟩ ∧
      ({} : Settings).build sample.config.window = .ok sample.config ∧
      ∃ t, ReachableBy sample [String.ofList typedNines.word] t ∧
        (∃ p, Plot.ofConfig? t.config sample.sources = some p ∧
          p.draw = "plot ['2013-06-01 00:00':'2013-06-01 10:00'][inf:] " ++
            "'<sed -n \"s/^[0-9]/&/p\" a.csv' u 1:($2) t 'temp' w lines lw 1") ∧
        ¬YRange.IsOfNumerals t.config.yRange.text.toList := by
  have hrange : typedNines.range = ⟨some (.infinite false), none⟩ := by decide +kernel
  have hline := typedNines.trim_toList_ne_nil
  obtain ⟨t, hreach, hconfig⟩ : ∃ t, ReachableBy sample [String.ofList typedNines.word] t ∧
      t.config = (sample.config.update sample.sources
        { yRange := some typedNines.range }).config.withDue sample.owed :=
    ⟨_, ReachableBy.refl.handle_line (fun _ => .delivered) _ hline,
      config_handle_word sample _ typedNines⟩
  -- The range of the state is the one of the word, so the plot has it as a text.
  rw [hrange] at hconfig
  refine ⟨by decide +kernel, Intent.ofWord_eq_yRange_iff.mpr ⟨typedNines, rfl, hrange⟩,
    build_sample, t, hreach, ?_, ?_⟩
  · rw [hconfig]
    exact ⟨_, (Plot.ofConfig?_eq _ sample.sources).trans (if_neg (by decide)), by decide +kernel⟩
  · rw [YRange.isOfNumerals_text_iff, hconfig]
    exact fun hfinite => absurd (hfinite.low _ rfl) (by decide)

end Session

end SeriesPlot
