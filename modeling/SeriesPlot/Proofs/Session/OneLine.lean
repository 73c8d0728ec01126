import SeriesPlot.Proofs.Command.OneLine
import SeriesPlot.Proofs.Session.Abort
import SeriesPlot.Proofs.Session.Delivered
import SeriesPlot.Proofs.Update.WellFormed

/-!
# `SeriesPlot.Proofs.Session.OneLine`: one line for the plotter for each line of the user

The plotter gets at most one line for each line of the user (`Session.sent_handle`). No text
that a session holds has a line feed, if its sources, its settings and its input have none
(`Session.OneLine`): the texts of a state come from the options of earlier lines, and the line
to repeat is an earlier line. So what is sent as one line is read as one.

* `Session.OneLine.handle`: the step lemma. What is sent for a line is on one line, and no line
  feed gets into the session.
* `Session.OneLine.run`: the run lemma, by induction on the lines.
* `Session.directivesFor`: what a line sends, by its kind. A step sends that, and it tries to send
  nothing else.
* `Session.one_line_for_each_line`: all of it for the lines that have a step, and which those are.
* `Session.no_column_step_of_widestSource`: a file with so many columns that there is no step from
  one to the next.
-/

set_option autoImplicit false

namespace SeriesPlot

open SeriesPlot.Text

/-! ### States -/

namespace Config.OneLine

variable {c : Config}

/-- An option sets a text without a line feed or restores one. -/
theorem apply (h : c.OneLine) {change : OptionChange} (hchange : change.OneLine) :
    (change.apply c).OneLine := by
  have hliteral : ∀ text, Text.OneLine text → TextMode.OneLine (.literal text) := by
    rintro text htext _ ⟨⟩
    exact htext
  have htoggled : ∀ mode : TextMode, mode.toggled.OneLine := by
    intro mode
    cases mode <;> exact nofun
  -- Four options set a text; the others restore one or leave all texts.
  cases change with
  | style s => exact { h with inUse := { h.inUse with style := hchange } }
  | resetStyle => exact { h with inUse := { h.inUse with style := h.defaults.style } }
  | lineWidth width => exact { h with inUse := { h.inUse with } }
  | resetLineWidth => exact { h with inUse := { h.inUse with } }
  | missing test =>
    refine { h with inUse := { h.inUse with missing := ?_ } }
    rintro _ ⟨⟩
    exact hchange
  | resetMissing => exact { h with inUse := { h.inUse with missing := h.defaults.missing } }
  | ticks text => exact { h with ticks := hliteral text hchange }
  | toggleTicks => exact { h with ticks := htoggled c.ticks }
  | title text => exact { h with title := hliteral text hchange }
  | toggleTitle => exact { h with title := htoggled c.title }
  | toggleEcho => exact { h with }
  | unsupported name => exact h
  | invalidValue name value => exact h

/-- So do several options, one after the other. -/
theorem foldl_apply (h : c.OneLine) {changes : List OptionChange}
    (hchanges : ∀ change ∈ changes, change.OneLine) :
    (changes.foldl OptionChange.apply c).OneLine := by
  induction changes generalizing c with
  | nil => exact h
  | cons change rest ih =>
    rw [List.forall_mem_cons] at hchanges
    exact ih (h.apply hchanges.1) hchanges.2

/-- A command changes the texts of a state by its options alone. -/
theorem update (h : c.OneLine) (set : SourceSet) {command : Command}
    (hcommand : ∀ change ∈ command.options, change.OneLine) :
    (c.update set command).config.OneLine := by
  have hmoved : (c.moved set command).OneLine := { h with }
  rw [update_config]
  exact { hmoved.foldl_apply hcommand with }

end Config.OneLine

/-- No text that a session is started with has a line feed. -/
structure Settings.OneLine (s : Settings) : Prop where
  style : ∀ style, s.style = some style → Text.OneLine style.text
  missing : ∀ test, s.missing = some test → Text.OneLine test.text
  title : ∀ mode, s.title = some mode → mode.OneLine
  ticks : ∀ mode, s.ticks = some mode → mode.OneLine

/-- A built state has the texts of the settings, or the usual ones. -/
theorem Settings.oneLine_of_build {settings : Settings} (h : settings.OneLine) {window : Window}
    {config : Config} (hbuild : settings.build window = .ok config) : config.OneLine := by
  have hmode : ∀ mode? : Option TextMode, (∀ mode, mode? = some mode → mode.OneLine) →
      (mode?.getD .auto).OneLine := by
    intro mode? hmode
    cases mode? with
    | none => exact nofun
    | some mode => exact hmode mode rfl
  have hstyle : Text.OneLine (settings.style.getD usualStyle).text := by
    cases hsome : settings.style with
    | none =>
      show Text.OneLine usualStyle.text
      decide
    | some style => exact h.style style hsome
  -- The same texts are in use at first and the defaults to go back to.
  unfold build at hbuild
  dsimp only at hbuild
  split at hbuild
  · cases hbuild
    exact {
      inUse := ⟨hstyle, h.missing⟩
      defaults := ⟨hstyle, h.missing⟩
      title := hmode _ h.title
      ticks := hmode _ h.ticks }
  · cases hbuild

/-! ### Sessions -/

/-- What draws a state is on one line. -/
theorem Directive.oneLine_drawing {c : Config} {set : SourceSet} (hc : c.OneLine)
    (hset : set.OneLine) : Text.OneLine (drawing c set).text := by
  unfold drawing
  cases hplot : Plot.ofConfig? c set with
  | none => decide
  | some p => exact Plot.oneLine_line hc hset hplot

/-- No text that a session holds has a line feed. -/
structure Session.OneLine (s : Session) : Prop where
  sources : s.sources.OneLine
  config : s.config.OneLine
  previous : Text.OneLine s.previous

namespace Session

variable {s : Session} {fate : Nat → Delivery}

/-- Drawing a state adds no text to the session. -/
theorem OneLine.drawn (h : s.OneLine) {c : Config} (hc : c.OneLine) : (s.drawn c).OneLine where
  sources := h.sources
  config := { hc with }
  previous := h.previous

/-- A line stands for itself or for one that is remembered. -/
theorem OneLine.resolve (h : s.OneLine) {input : String} (hinput : Text.OneLine input) :
    Text.OneLine (s.resolve input) := by
  unfold Session.resolve
  split
  · exact h.previous
  · exact hinput

/-- What is sent for a line, and what the session then holds. -/
theorem OneLine.effect (h : s.OneLine) {line : String} (hline : Text.OneLine line) :
    (∀ d ∈ (s.effect (Line.parse line)).sent, Text.OneLine d.text) ∧
      (s.effect (Line.parse line)).session.OneLine := by
  cases hparse : Line.parse line with
  | blank => exact ⟨nofun, h⟩
  | quit => exact ⟨nofun, h⟩
  -- What the program does not read is sent as it is, so the line itself must have no line feed.
  | verbatim text =>
    refine ⟨fun d hd => ?_, { h with }⟩
    rw [List.mem_singleton.mp hd]
    exact Line.oneLine_of_parse_eq_verbatim hline hparse
  | command c =>
    cases hchanges : c.hasChanges with
    | false =>
      rw [effect_of_not_hasChanges hchanges]
      exact ⟨nofun, h⟩
    -- A plot is made of texts of the state and of the sources.
    | true =>
      have hdrawn := h.drawn (h.config.update s.sources (Line.oneLine_of_parse hline hparse))
      rw [effect_of_hasChanges hchanges]
      refine ⟨fun d hd => ?_, hdrawn⟩
      rw [List.mem_singleton.mp hd]
      exact Directive.oneLine_drawing hdrawn.config hdrawn.sources

/-- The step lemma: what is sent for a line is on one line, and no line feed gets into the
session. -/
theorem OneLine.handle (h : s.OneLine) (hfate : ∀ n, fate n = .delivered) {input : String}
    (hinput : Text.OneLine input) :
    (∀ d ∈ (s.handle fate input).sent, Text.OneLine d.text) ∧
      (s.handle fate input).session.OneLine := by
  have hline := h.resolve hinput
  obtain ⟨hsent, hsession⟩ := h.effect hline
  rw [handle_eq_of_delivered hfate]
  dsimp only
  generalize s.effect (Line.parse (s.resolve input)) = p at *
  refine ⟨hsent, ?_⟩
  split
  · exact h
  · exact { hsession with previous := hline }

/-- So nothing that is sent for some lines has a line feed. -/
theorem OneLine.handleAll (h : s.OneLine) (hfate : ∀ n, fate n = .delivered)
    {inputs : List String} (hinputs : ∀ input ∈ inputs, Text.OneLine input) :
    ∀ o ∈ s.handleAll fate inputs, ∀ d ∈ o.sent, Text.OneLine d.text := by
  induction inputs generalizing s with
  | nil => exact fun o ho => absurd ho List.not_mem_nil
  | cons input rest ih =>
    rw [List.forall_mem_cons] at hinputs
    obtain ⟨hsent, hsession⟩ := h.handle hfate hinputs.1
    intro o ho
    rcases List.mem_cons.mp ho with heq | hrest
    · rwa [heq]
    · exact ih hsession hinputs.2 o hrest

/-- The first step sends fixed lines and a plot. -/
theorem OneLine.start (h : s.OneLine) (hfate : ∀ n, fate n = .delivered) :
    (∀ d ∈ (s.start fate).sent, Text.OneLine d.text) ∧ (s.start fate).session.OneLine := by
  have hprepared : OneLine { s with attempts := s.attempts + Directive.setupLines.length } :=
    { h with }
  have hdrawn := hprepared.drawn h.config
  have hsetup : ∀ line ∈ Directive.setupLines, Text.OneLine line := by decide
  rw [start_eq_of_delivered hfate]
  refine ⟨fun d hd => ?_, hdrawn⟩
  rcases List.mem_append.mp hd with hd | hd
  · obtain ⟨line, hline, rfl⟩ := List.mem_map.mp hd
    exact hsetup line hline
  · rw [List.mem_singleton.mp hd]
    exact Directive.oneLine_drawing hdrawn.config hdrawn.sources

/-- The run lemma: nothing that is sent in a run has a line feed. -/
theorem OneLine.run (h : s.OneLine) (hfate : ∀ n, fate n = .delivered) {inputs : List String}
    (hinputs : ∀ input ∈ inputs, Text.OneLine input) :
    ∀ o ∈ s.run fate inputs, ∀ d ∈ o.sent, Text.OneLine d.text := by
  obtain ⟨hsent, hsession⟩ := h.start hfate
  intro o ho
  rcases List.mem_cons.mp ho with heq | hrest
  · rwa [heq]
  · exact hsession.handleAll hfate hinputs o hrest

/-! ### Lines sent for a line -/

/-- What is sent for a line that leads to a state: the line itself if it is for the plotter,
what draws the state if it is a command with changes, and otherwise nothing. -/
def directivesFor (config : Config) (set : SourceSet) : Line → List Directive
  | .verbatim text => [.verbatim text]
  | .command c => if c.hasChanges then [.drawing config set] else []
  | .blank | .quit => []

/-- Every attempt counts, and what is sent is what the kind of the line asks for. -/
theorem sent_effect (s : Session) (line : Line) :
    let p := s.effect line
    p.session.attempts = s.attempts + p.sent.length ∧
      p.sent = directivesFor p.session.config p.session.sources line := by
  cases line with
  | blank => exact ⟨rfl, rfl⟩
  | quit => exact ⟨rfl, rfl⟩
  | verbatim text => exact ⟨rfl, rfl⟩
  | command c =>
    unfold effect directivesFor
    dsimp only
    split <;> exact ⟨rfl, rfl⟩

/-- A step fails on no line. It sends at most one directive, and tries to send no other. -/
theorem sent_handle (hfate : ∀ n, fate n = .delivered) (s : Session) (input : String) :
    let line := s.resolve input
    let o := s.handle fate input
    o.result = .ok (if String.ofList (trim line.toList) ∈ Line.quitTexts then .quit else .goOn) ∧
      o.session.attempts = s.attempts + o.sent.length ∧
      o.sent = directivesFor o.session.config o.session.sources (Line.parse line) := by
  intro line o
  -- A line that ends the session sends nothing and has no effect.
  by_cases hquit : Line.parse line = .quit
  · have ho : o = conclude { session := s } .quit := handle_eq_of_quit hquit
    rw [ho, hquit, if_pos (Line.parse_eq_quit_iff.mp hquit)]
    exact ⟨rfl, rfl, rfl⟩
  · have ho : o = _ := handle_eq_effect hfate hquit
    rw [ho, if_neg (mt Line.parse_eq_quit_iff.mpr hquit)]
    have heffect := s.sent_effect (Line.parse (s.resolve input))
    generalize s.effect (Line.parse (s.resolve input)) = p at heffect ⊢
    exact ⟨rfl, heffect⟩

/-- Every line of the user sends at most one line to the plotter. If no label, no name of a
column, no text of the settings and no line of the user has a line feed, then neither has any
line that is sent. If all directives arrive, a step ends the session iff its line is one of
three words, and it never fails. It sends the line itself if that is for the plotter, one
directive for a command with changes, even if there is nothing to plot, and otherwise
nothing.

All of this is about lines that have a step. A line has none iff it is a column step that is
about a source with as many names as the highest column number says. -/
theorem one_line_for_each_line {given : List Source} {set : SourceSet}
    (hset : SourceSet.ofSources given = .ok set) (hgiven : ∀ source ∈ given, source.OneLine)
    {settings : Settings} (hsettings : settings.OneLine) {window : Window} {config : Config}
    (hbuild : settings.build window = .ok config) (hfate : ∀ n, fate n = .delivered)
    {inputs : List String} (hinputs : ∀ input ∈ inputs, Text.OneLine input) :
    let s : Session := { sources := set, config }
    (∀ o ∈ s.run fate inputs, ∀ d ∈ o.sent, Text.OneLine d.text) ∧
      (s.start fate).session.attempts = (s.start fate).sent.length ∧
      ∀ (t : Session) (input : String),
        let line := t.resolve input
        (t.handle? fate input = none ↔
          ∃ c, Line.parse line = .command c ∧
            (c.selection = some .next ∨ c.selection = some .previous) ∧
            ∃ source ∈ t.config.selection.steppedSources t.sources,
              source.names.length = columnLimit) ∧
        ∀ o, t.handle? fate input = some o →
          o.result =
              .ok (if String.ofList (trim line.toList) ∈ Line.quitTexts then .quit else .goOn) ∧
            o.session.attempts = t.attempts + o.sent.length ∧
            o.sent = directivesFor o.session.config o.session.sources (Line.parse line) ∧
            ∀ text, Line.parse line = .verbatim text → text = String.ofList (trim line.toList) := by
  intro s
  have hs : s.OneLine := {
    sources := SourceSet.oneLine_of_ofSources hset hgiven
    config := Settings.oneLine_of_build hsettings hbuild
    previous := show Text.OneLine "i" by decide }
  refine ⟨hs.run hfate hinputs, ?_, fun t input => ?_⟩
  · rw [start_eq_of_delivered hfate]
    simp [drawn, s]
  · refine ⟨handle?_eq_none_iff.trans aborts_iff, fun o ho => ?_⟩
    obtain ⟨-, rfl⟩ := handle?_eq_some_iff.mp ho
    obtain ⟨hresult, hattempts, hsent⟩ := t.sent_handle hfate input
    exact ⟨hresult, hattempts, hsent, fun text => Line.eq_of_parse_eq_verbatim⟩

/-- Texts are set and kept over a state without a plot, before one is drawn. -/
theorem one_line_for_each_line_of_options :
    let fate : Nat → Delivery := fun _ => .delivered
    let inputs := ["-title='x',ls=dots,mis=-999 q2", "replot", "a3", "\t", "quit"]
    SourceSet.ofSources sample.sources.sources = .ok sample.sources ∧
      (∀ input ∈ inputs, Text.OneLine input) ∧
      (∀ o ∈ sample.run fate inputs, ∀ d ∈ o.sent, Text.OneLine d.text) ∧
      (sample.run fate inputs).map (·.sent.length) = [10, 1, 1, 1, 1, 0] := by
  intro fate inputs
  have hset : SourceSet.ofSources sample.sources.sources = .ok sample.sources := rfl
  have hgiven : ∀ source ∈ sample.sources.sources, source.OneLine :=
    List.forall_mem_singleton.mpr ⟨by decide, by decide⟩
  have hinputs : ∀ input ∈ inputs, Text.OneLine input := by decide
  have hsettings : ({} : Settings).OneLine := by constructor <;> simp
  obtain ⟨hrun, -⟩ :=
    one_line_for_each_line hset hgiven hsettings build_sample (fun _ => rfl) hinputs
  exact ⟨hset, hinputs, hrun, by decide +kernel⟩

/-- A file whose header names as many value columns as the highest column number says. None of
the names has a character in it. -/
def widestSource : Source :=
  { letter := 'a', start := sample.sources.union.start, stop := sample.sources.union.stop
    names := List.replicate columnLimit "", label := "a.csv" }

/-- Over a file with this many columns the first step draws a plot, and then there is no step to
the next column. -/
theorem no_column_step_of_widestSource :
    let fate : Nat → Delivery := fun _ => .delivered
    let set : SourceSet := { sample.sources with sources := [widestSource] }
    let s : Session := { sources := set, config := sample.config }
    SourceSet.ofSources [widestSource] = .ok set ∧ widestSource.OneLine ∧
      ({} : Settings).build set.initialWindow = .ok sample.config ∧
      Line.parse "vn" = .command { selection := some .next } ∧
      (s.start fate).result = .ok .goOn ∧
      (s.start fate).session.handle? fate "vn" = none := by
  intro fate set s
  have hset : SourceSet.ofSources [widestSource] = .ok set := rfl
  have hnames : widestSource.OneLine := by
    refine ⟨by decide, fun name hname => ?_⟩
    rw [List.eq_of_mem_replicate hname]
    decide
  have hparse : Line.parse "vn" = .command { selection := some .next } := by decide +kernel
  have hstart := start_eq_of_delivered (fun _ => rfl : ∀ n, fate n = .delivered) s
  refine ⟨hset, hnames, build_sample, hparse, by rw [hstart], ?_⟩
  have hconfig : (s.start fate).session.config.selection = sample.config.selection := by
    rw [hstart]
    rfl
  -- The selection at first is about all sources, and there is only this one.
  have hstepped : widestSource ∈
      (s.start fate).session.config.selection.steppedSources (s.start fate).session.sources := by
    rw [hconfig, sources_start]
    exact List.mem_cons_self
  exact handle?_eq_none_iff.mpr (aborts_iff.mpr ⟨_, hparse, .inl rfl, widestSource, hstepped,
    List.length_replicate⟩)

end Session

end SeriesPlot
