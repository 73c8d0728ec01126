import SeriesPlot.Proofs.Command.Intent

/-!
# `SeriesPlot.Proofs.Command.Parse`: a line is read word by word

What a line asks for is settled by what each of its words asks for. `Intent.asked`
lists these intents: up to the first `i`, and without the option words that have no
options, which ask for nothing.

* `Command.collect?_empty`: reading the words from the left, with its early returns and
  its comparison with the empty command, adds up exactly the listed intents. It fails
  iff an unknown word is the first of them.
* `Command.Collects`: the command has the payloads of each kind, in order, and nothing
  else. `Command.collects_anchored` says so of what is read, and `Command.Collects.unique` that
  this leaves nothing open.
* `Line.parse_characterised`: which of the four kinds a line is of, and what the
  command of a line holds.

The reader decides by the command that it has so far: an unknown word ends the reading as long as
that is empty. A command that asks for something never becomes empty again
(`Command.add_ne_empty`), so from the first intent on reading is a fold
(`Command.collect?_of_ne_empty`), and before it only words without an effect are skipped. The fold
puts each kind in its place (`Command.foldl_add`).
-/

set_option autoImplicit false

namespace SeriesPlot

open SeriesPlot.Text

namespace Intent

/-- The list up to its first `i`, which is kept. -/
def upToInfo : List Intent → List Intent
  | [] => []
  | .info :: _ => [.info]
  | intent :: rest => intent :: upToInfo rest

/-- Whether a word asks for nothing, which is so for an option word without options. -/
def isIdle : Intent → Bool
  | .options [] => true
  | _ => false

/-- The intents up to the first `i` that ask for something. -/
def relevant (intents : List Intent) : List Intent :=
  (upToInfo intents).filter (!·.isIdle)

/-- What the words of a text ask for. -/
def asked (text : List Char) : List Intent := relevant ((words text).map ofWord)

/-- Whether the first intent is an unknown word. -/
def startsUnknown : List Intent → Bool
  | .unknown _ :: _ => true
  | _ => false

/-! ### The payload of each kind -/

/-- The change of the selection that an intent asks for. -/
def selection? : Intent → Option SelectionChange
  | .select change => some change
  | _ => none

/-- The range of the values that an intent asks for. -/
def yRange? : Intent → Option YRange
  | .yRange range => some range
  | _ => none

/-- The time token of an intent. -/
def time? : Intent → Option TimeToken
  | .time token => some token
  | _ => none

/-- The options that an intent changes, several if its word stands for several. -/
def optionChanges : Intent → List OptionChange
  | .options changes => changes
  | _ => []

/-- The word of an intent that is recognised but not valid. -/
def invalid? : Intent → Option InvalidWord
  | .invalid word => some word
  | _ => none

/-- The word of an intent that is not recognised. -/
def unknown? : Intent → Option String
  | .unknown word => some word
  | _ => none

/-- The first intent decides whether a line starts with an unknown word. -/
theorem startsUnknown_iff {intents : List Intent} :
    startsUnknown intents = true ↔ ∃ word, intents.head? = some (.unknown word) := by
  unfold startsUnknown
  split
  · simp
  · rename_i h
    cases intents with
    | nil => simp
    | cons intent rest =>
      simp only [List.head?_cons, Option.some_inj, reduceCtorEq, false_iff]
      rintro ⟨word, rfl⟩
      exact h word rest rfl

/-- Option words without options are the only ones that ask for nothing. -/
theorem isIdle_iff {intent : Intent} : intent.isIdle = true ↔ intent = .options [] := by
  unfold isIdle
  split
  · simp
  · simpa

end Intent

/-- A token as it stands in a command with the tokens `line`. A width counts as set
together with the stop of the window iff some token sets the stop. Nothing else about
a token changes. -/
def TimeToken.anchoredIn (line : List TimeToken) : TimeToken → TimeToken
  | .shift s =>
    .shift { s with
      stopAnchored := s.stopAnchored || (s.direction == .resize && line.any Command.setsStop) }
  | token => token

namespace Command

/-- A command holds what some intents ask for, each kind in order, and nothing else.
The marks on its time tokens are the only thing that depends on other words. -/
structure Collects (c : Command) (intents : List Intent) : Prop where
  info : c.info = true ↔ .info ∈ intents
  selection : c.selection = (intents.filterMap Intent.selection?).getLast?
  yRange : c.yRange = (intents.filterMap Intent.yRange?).getLast?
  times : c.times = (intents.filterMap Intent.time?).map
    (TimeToken.anchoredIn (intents.filterMap Intent.time?))
  marked : ∀ s, .shift s ∈ c.times →
    (s.stopAnchored = true ↔ s.direction = .resize ∧ ∃ t, .time (.stop t) ∈ intents)
  options : c.options = intents.flatMap Intent.optionChanges
  invalid : c.invalid = intents.filterMap Intent.invalid?
  unknown : c.unknown = intents.filterMap Intent.unknown?

/-! ### Adding up intents -/

variable {c : Command} {intents : List Intent}

/-- Adding never takes anything away, so a command stays one that asks for something. -/
theorem add_ne_empty (h : c ≠ {}) (intent : Intent) : c.add intent ≠ {} := by
  intro hadd
  apply h
  cases intent <;> cases c <;> simp_all [add]

/-- A command stays recognised, whatever is added to it. -/
theorem isRecognised_add (h : c.isRecognised = true) (intent : Intent) :
    (c.add intent).isRecognised = true := by
  simp only [isRecognised, hasChanges, Bool.or_eq_true] at h ⊢
  cases intent with
  | options changes =>
    -- Nothing new need come in here, so the old reason has to survive.
    simp_all [add]
    grind
  | _ => simp_all [add]

/-- What is added to a command that asks for nothing makes it ask for something. -/
theorem add_empty_ne_empty {intent : Intent} (h : intent.isIdle = false) :
    ({} : Command).add intent ≠ {} := by
  cases intent with
  | options changes =>
    cases changes with
    | nil => simp [Intent.isIdle] at h
    | cons change rest => simp [add]
  | _ => simp [add]

/-- Any word but an unknown one makes an empty command recognised, if it asks for something. -/
theorem isRecognised_add_empty {intent : Intent} (hidle : intent.isIdle = false)
    (hunknown : ∀ word, intent ≠ .unknown word) :
    (({} : Command).add intent).isRecognised = true := by
  cases intent with
  | options changes =>
    cases changes with
    | nil => simp [Intent.isIdle] at hidle
    | cons change rest => rfl
  | unknown word => exact absurd rfl (hunknown word)
  | _ => rfl

/-- What some intents add to a command, each kind in its place. -/
theorem foldl_add (c : Command) (intents : List Intent) :
    intents.foldl add c = {
      info := c.info || intents.contains .info
      selection := (intents.filterMap Intent.selection?).getLast?.or c.selection
      times := c.times ++ intents.filterMap Intent.time?
      yRange := (intents.filterMap Intent.yRange?).getLast?.or c.yRange
      options := c.options ++ intents.flatMap Intent.optionChanges
      invalid := c.invalid ++ intents.filterMap Intent.invalid?
      unknown := c.unknown ++ intents.filterMap Intent.unknown? } := by
  induction intents generalizing c with
  | nil => simp
  | cons intent rest ih =>
    rw [List.foldl_cons, ih]
    cases intent <;>
      simp [add, Intent.selection?, Intent.yRange?, Intent.time?, Intent.optionChanges,
        Intent.invalid?, Intent.unknown?, List.filterMap_cons, List.getLast?_cons]

/-- Intents that ask for nothing add nothing. -/
theorem foldl_add_relevant (c : Command) (intents : List Intent) :
    (Intent.relevant intents).foldl add c = (Intent.upToInfo intents).foldl add c := by
  unfold Intent.relevant
  induction Intent.upToInfo intents generalizing c with
  | nil => rfl
  | cons intent rest ih =>
    rw [List.filter_cons, List.foldl_cons]
    cases hidle : intent.isIdle with
    | false => simpa using ih (c.add intent)
    | true =>
      rw [Intent.isIdle_iff] at hidle
      subst hidle
      simpa [add] using ih c

/-- So a command stays recognised through the rest of a line. -/
theorem isRecognised_foldl_add (h : c.isRecognised = true) (intents : List Intent) :
    (intents.foldl add c).isRecognised = true := by
  induction intents generalizing c with
  | nil => exact h
  | cons intent rest ih => exact ih (isRecognised_add h intent)

/-! ### Reading words -/

/-- A command that asks for something takes in all words up to the first `i`: unknown
words are then words like any others. -/
theorem collect?_of_ne_empty (h : c ≠ {}) (ws : List (List Char)) :
    c.collect? ws = some ((Intent.upToInfo (ws.map Intent.ofWord)).foldl add c) := by
  -- The comparison with the empty command fails now and, by `add_ne_empty`, ever after.
  induction ws generalizing c with
  | nil => rfl
  | cons word rest ih =>
    rw [collect?, List.map_cons]
    cases hword : Intent.ofWord word with
    | info => rfl
    | unknown text => simpa [h, Intent.upToInfo] using ih (add_ne_empty h _)
    | yRange range => exact ih (add_ne_empty h _)
    | options changes => exact ih (add_ne_empty h _)
    | select change => exact ih (add_ne_empty h _)
    | time token => exact ih (add_ne_empty h _)
    | invalid fault => exact ih (add_ne_empty h _)

/-- The words of a line add up to what they ask for, unless the first of them that asks
for something is unknown. -/
theorem collect?_empty (ws : List (List Char)) :
    collect? {} ws =
      if Intent.startsUnknown (Intent.relevant (ws.map Intent.ofWord)) then none
      else some ((Intent.relevant (ws.map Intent.ofWord)).foldl add {}) := by
  rw [foldl_add_relevant]
  -- Only words without options keep the command empty. At the first other word the
  -- induction ends: an unknown word settles the line, and any other starts a command.
  induction ws with
  | nil => rfl
  | cons word rest ih =>
    rw [collect?, List.map_cons]
    cases hword : Intent.ofWord word with
    | info => rfl
    | unknown text => rfl
    | options changes =>
      cases changes with
      | nil => exact ih
      | cons change changes => exact collect?_of_ne_empty (add_empty_ne_empty rfl) rest
    | yRange range => exact collect?_of_ne_empty (add_empty_ne_empty rfl) rest
    | select change => exact collect?_of_ne_empty (add_empty_ne_empty rfl) rest
    | time token => exact collect?_of_ne_empty (add_empty_ne_empty rfl) rest
    | invalid fault => exact collect?_of_ne_empty (add_empty_ne_empty rfl) rest

/-- What the words of a line add up to is recognised, unless none of them asks for
anything. -/
theorem isRecognised_foldl_add_empty (h : Intent.startsUnknown (Intent.relevant intents) = false) :
    ((Intent.relevant intents).foldl add {}).isRecognised =
      !(Intent.relevant intents).isEmpty := by
  cases hrelevant : Intent.relevant intents with
  | nil => rfl
  | cons intent rest =>
    -- The first intent asks for something and is known, and one such intent is enough.
    have hidle : intent.isIdle = false := by
      have hmem : intent ∈ Intent.relevant intents := by simp [hrelevant]
      simpa using (List.mem_filter.mp hmem).2
    refine isRecognised_foldl_add (isRecognised_add_empty hidle fun word hword => ?_) rest
    rw [hrelevant, hword] at h
    exact nomatch h

/-! ### Marking widths -/

/-- Marking changes the tokens of a command only. -/
theorem anchored_eq (c : Command) :
    c.anchored = { c with times := c.times.map (TimeToken.anchoredIn c.times) } := by
  unfold anchored
  -- Tokens are marked only if one of them sets the stop.
  cases hstop : c.times.any setsStop with
  | false =>
    have hsame : c.times.map (TimeToken.anchoredIn c.times) = c.times := by
      refine (List.map_congr_left fun token _ => ?_).trans (List.map_id' c.times)
      cases token <;> simp [TimeToken.anchoredIn, hstop]
    rw [hsame]
    rfl
  | true =>
    have hmarked : c.times.map markStopAnchored = c.times.map (TimeToken.anchoredIn c.times) := by
      refine List.map_congr_left fun token _ => ?_
      cases token with
      -- Only a change of the width has a mark, so the other shifts are the same with it.
      | shift s =>
        by_cases hresize : s.direction = .resize
        · simp [markStopAnchored, TimeToken.anchoredIn, hstop, hresize]
        · simp [markStopAnchored, TimeToken.anchoredIn, hresize, beq_false_of_ne hresize]
      | _ => rfl
    rw [← hmarked]
    rfl

/-- Whether some token sets the stop of the window, as the reader tests it. -/
theorem any_setsStop_iff {tokens : List TimeToken} :
    tokens.any setsStop = true ↔ ∃ t, .stop t ∈ tokens := by
  rw [List.any_eq_true]
  constructor
  · rintro ⟨token, hmem, hstop⟩
    cases token with
    | stop t => exact ⟨t, hmem⟩
    | _ => exact nomatch hstop
  · rintro ⟨t, hmem⟩
    exact ⟨_, hmem, rfl⟩

/-- The time tokens of a line are those that its words are read as. -/
theorem mem_filterMap_time? {token : TimeToken} :
    token ∈ intents.filterMap Intent.time? ↔ .time token ∈ intents := by
  rw [List.mem_filterMap]
  constructor
  · rintro ⟨intent, hmem, htoken⟩
    cases intent with
    | time token' =>
      cases htoken
      exact hmem
    | _ => exact nomatch htoken
  · intro hmem
    exact ⟨_, hmem, rfl⟩

/-- The command of some words holds what they ask for. Each word is marked for what the
others say, and for nothing else, because no word is read as a marked token. -/
theorem collects_anchored (hreading : ∀ intent ∈ intents, ∃ word, Intent.Reading word intent) :
    (intents.foldl add {}).anchored.Collects intents := by
  rw [anchored_eq, foldl_add]
  refine {
    info := by simp
    selection := Option.or_none
    yRange := Option.or_none
    times := rfl
    marked := fun s hs => ?_
    options := rfl
    invalid := rfl
    unknown := rfl }
  -- Only the marks depend on more than the payloads: they must not be there before.
  simp only [List.nil_append] at hs
  obtain ⟨token, htoken, hmarked⟩ := List.mem_map.mp hs
  cases token with
  | shift parsed =>
    obtain ⟨word, hword⟩ := hreading _ (mem_filterMap_time?.mp htoken)
    have hunmarked : parsed.stopAnchored = false := by
      cases hword with
      | time h => exact TimeToken.stopAnchored_of_parse? h
    cases hmarked
    simp only [hunmarked, Bool.false_or, Bool.and_eq_true, beq_iff_eq, any_setsStop_iff,
      mem_filterMap_time?]
  | _ => exact nomatch hmarked

end Command

/-! ### Whole lines -/

namespace Intent

/-- Only intents after an `i` are left out. -/
theorem upToInfo_subset (intents : List Intent) : upToInfo intents ⊆ intents := by
  induction intents with
  | nil => exact List.Subset.refl []
  | cons first rest ih =>
    cases first with
    | info => exact List.cons_subset_cons _ (List.nil_subset rest)
    | _ => exact List.cons_subset_cons _ ih

/-- What a line asks for is asked for by one of its words. -/
theorem exists_ofWord_of_mem_asked {text : List Char} {intent : Intent}
    (h : intent ∈ asked text) : ∃ word ∈ words text, ofWord word = intent :=
  List.mem_map.mp (upToInfo_subset _ (List.mem_filter.mp h).1)

/-- What a line asks for is what its words are read as. -/
theorem reading_of_mem_asked {text : List Char} {intent : Intent} (h : intent ∈ asked text) :
    ∃ word, Reading word intent := by
  obtain ⟨word, -, rfl⟩ := exists_ofWord_of_mem_asked h
  exact ⟨word, reading_ofWord word⟩

end Intent

/-- There is only one command that holds what some intents ask for. -/
theorem Command.Collects.unique {c d : Command} {intents : List Intent}
    (hc : c.Collects intents) (hd : d.Collects intents) : c = d := by
  obtain ⟨info, selection, times, yRange, options, invalid, unknown⟩ := c
  obtain ⟨info', selection', times', yRange', options', invalid', unknown'⟩ := d
  have hinfo : info = info' := Bool.eq_iff_iff.mpr (hc.info.trans hd.info.symm)
  obtain rfl := hinfo
  obtain rfl := hc.selection.trans hd.selection.symm
  obtain rfl := hc.times.trans hd.times.symm
  obtain rfl := hc.yRange.trans hd.yRange.symm
  obtain rfl := hc.options.trans hd.options.symm
  obtain rfl := hc.invalid.trans hd.invalid.symm
  obtain rfl := hc.unknown.trans hd.unknown.symm
  rfl

namespace Line

/-- The texts that end the session. -/
def quitTexts : List String := ["q", "quit", "exit"]

/-- The three words that end a session. -/
theorem mem_quitTexts_iff {text : List Char} :
    String.ofList text ∈ quitTexts ↔
      text = ['q'] ∨ text = ['q', 'u', 'i', 't'] ∨ text = ['e', 'x', 'i', 't'] := by
  simp [quitTexts, ← String.toList_inj]

/-- What a line is depends on its text without the white space around it, and, for
lines that do not end the session, on what the words of the text ask for. -/
theorem parse_eq (line : String) :
    parse line =
      let text := trim line.toList
      let intents := Intent.asked text
      if text = [] then .blank
      else if String.ofList text ∈ quitTexts then .quit
      else if intents = [] ∨ Intent.startsUnknown intents = true then
        .verbatim (String.ofList text)
      else .command (intents.foldl Command.add {}).anchored := by
  unfold parse
  simp only [mem_quitTexts_iff]
  split
  · rfl
  split
  · rfl
  -- Neither blank nor quitting: the words decide.
  rw [Command.collect?_empty, ← Intent.asked]
  cases hunknown : Intent.startsUnknown (Intent.asked (trim line.toList)) with
  | true => simp
  | false =>
    rw [if_neg (by simp)]
    dsimp only
    rw [Intent.asked, Command.isRecognised_foldl_add_empty hunknown]
    cases Intent.relevant ((words (trim line.toList)).map Intent.ofWord) with
    | nil => rfl
    | cons intent rest => simp

/-- A line is blank iff there is nothing but white space in it. -/
theorem parse_eq_blank_iff {line : String} : parse line = .blank ↔ trim line.toList = [] := by
  rw [parse_eq]
  dsimp only
  split
  · exact iff_of_true rfl ‹_›
  · refine iff_of_false ?_ ‹_›
    split
    · exact nofun
    · split <;> exact nofun

/-- A line ends the session iff its text without the white space around it does. -/
theorem parse_eq_quit_iff {line : String} :
    parse line = .quit ↔ String.ofList (trim line.toList) ∈ quitTexts := by
  rw [parse_eq]
  dsimp only
  split
  · rename_i hblank
    rw [hblank]
    exact iff_of_false nofun (by decide)
  · split
    · exact iff_of_true rfl ‹_›
    · refine iff_of_false ?_ ‹_›
      split <;> exact nofun

/-- The command of a line holds what the words of the line ask for. -/
theorem collects_of_parse {line : String} {c : Command} (h : parse line = .command c) :
    c.Collects (Intent.asked (trim line.toList)) := by
  rw [parse_eq] at h
  dsimp only at h
  split at h
  · cases h
  split at h
  · cases h
  split at h
  · cases h
  · rw [← Line.command.inj h]
    exact Command.collects_anchored fun _ => Intent.reading_of_mem_asked

/-- A line for the plotter is sent without the white space around it. -/
theorem eq_of_parse_eq_verbatim {line text : String} (h : parse line = .verbatim text) :
    text = String.ofList (trim line.toList) := by
  rw [parse_eq] at h
  dsimp only at h
  split at h
  · cases h
  split at h
  · cases h
  split at h
  · exact (Line.verbatim.inj h).symm
  · cases h

/-- What a line is. It is blank, or ends the session, if its text without the white
space around it is empty, or one of three words. Any other line is handed to the plotter
as it is iff none of its words asks for anything, or the first that does is unknown. In
every other case the line is the command that holds what its words ask for: nothing is
lost and nothing added. -/
theorem parse_characterised (line : String) :
    let text := trim line.toList
    let intents := Intent.asked text
    (parse line = .blank ↔ text = []) ∧
      (parse line = .quit ↔ String.ofList text ∈ quitTexts) ∧
      (∀ sent, parse line = .verbatim sent ↔
        text ≠ [] ∧ String.ofList text ∉ quitTexts ∧
          (intents = [] ∨ ∃ word, intents.head? = some (.unknown word)) ∧
          sent = String.ofList text) ∧
      ∀ c, parse line = .command c ↔
        text ≠ [] ∧ String.ofList text ∉ quitTexts ∧
          ¬(intents = [] ∨ ∃ word, intents.head? = some (.unknown word)) ∧
          c.Collects intents := by
  intro text intents
  rw [← Intent.startsUnknown_iff]
  have hparse : parse line = _ := parse_eq line
  dsimp only at hparse
  -- The four kinds exclude each other, so in each case one equivalence is about what the
  -- line is, and the other three are about what it is not.
  by_cases hblank : text = []
  · rw [if_pos hblank] at hparse
    rw [hparse]
    have hquit : String.ofList text ∉ quitTexts := by rw [hblank]; decide
    exact ⟨iff_of_true rfl hblank, iff_of_false nofun hquit,
      fun _ => iff_of_false nofun fun h => h.1 hblank,
      fun _ => iff_of_false nofun fun h => h.1 hblank⟩
  by_cases hquit : String.ofList text ∈ quitTexts
  · rw [if_neg hblank, if_pos hquit] at hparse
    rw [hparse]
    exact ⟨iff_of_false nofun hblank, iff_of_true rfl hquit,
      fun _ => iff_of_false nofun fun h => h.2.1 hquit,
      fun _ => iff_of_false nofun fun h => h.2.1 hquit⟩
  rw [if_neg hblank, if_neg hquit] at hparse
  by_cases hverbatim : intents = [] ∨ Intent.startsUnknown intents = true
  · rw [if_pos hverbatim] at hparse
    rw [hparse]
    refine ⟨iff_of_false nofun hblank, iff_of_false nofun hquit, fun sent => ⟨?_, ?_⟩,
      fun _ => iff_of_false nofun fun h => h.2.2.1 hverbatim⟩
    · intro hsent
      exact ⟨hblank, hquit, hverbatim, (Line.verbatim.inj hsent).symm⟩
    · rintro ⟨-, -, -, rfl⟩
      rfl
  · rw [if_neg hverbatim] at hparse
    rw [hparse]
    have hcollects : ((intents.foldl Command.add {}).anchored).Collects intents :=
      Command.collects_anchored fun _ => Intent.reading_of_mem_asked
    refine ⟨iff_of_false nofun hblank, iff_of_false nofun hquit,
      fun _ => iff_of_false nofun fun h => hverbatim h.2.2.1, fun c => ⟨?_, ?_⟩⟩
    · intro hc
      exact ⟨hblank, hquit, hverbatim, Line.command.inj hc ▸ hcollects⟩
    · rintro ⟨-, -, -, hc⟩
      rw [hcollects.unique hc]

-- An option word without options does not make a line a command.
example : Line.parse " -, plot a2 " = .verbatim "-, plot a2" := by decide

end Line

end SeriesPlot
