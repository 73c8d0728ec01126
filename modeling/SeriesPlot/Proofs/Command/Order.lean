import SeriesPlot.Proofs.Command.Parse
import SeriesPlot.Proofs.Support.Filter
import SeriesPlot.Proofs.Text.Words

/-!
# `SeriesPlot.Proofs.Command.Order`: the order of words matters within a kind only

Each kind of words has a place of its own in a command. What is put there depends only on
the words of that kind, in their order (`Command.foldl_add_congr`). Marking widths looks at
all time tokens of the line, but not at where they stand among other words.

Two other things about a line could depend on the order of its words: whether it ends the
session, and whether it is handed to the plotter as it is. The first is so only for lines
of one word, and the second, if all words are known, only for lines without other words
than those of options (`Line.parse_join`). Neither leaves anything to reorder.

* `Intent.SameByKind`: two lists have the same intents of every kind, in the same order. All that
  a command is made of is the same for both.
* `Line.KeepsKinds`: two lines have the same words, and those of one kind keep their order.
* `Line.parse_join_of_keepsKinds`: such lines are read as the same.
-/

set_option autoImplicit false

namespace SeriesPlot

open SeriesPlot.Proofs.Support SeriesPlot.Text

namespace Intent

/-- The kinds of intents. -/
inductive Kind where
  | info
  | yRange
  | options
  | select
  | time
  | invalid
  | unknown
deriving DecidableEq

/-- The kind of an intent, whatever its payload. -/
def kind : Intent → Kind
  | .info => .info
  | .yRange _ => .yRange
  | .options _ => .options
  | .select _ => .select
  | .time _ => .time
  | .invalid _ => .invalid
  | .unknown _ => .unknown

/-- The intents of one kind. -/
def ofKind (kind : Kind) (intents : List Intent) : List Intent :=
  intents.filter (·.kind = kind)

/-- Two lists have the same intents of every kind, in the same order. -/
def SameByKind (intents intents' : List Intent) : Prop :=
  ∀ kind, ofKind kind intents = ofKind kind intents'

variable {intents intents' : List Intent}

/-- What is made of the intents of one kind is the same for both lists. -/
theorem SameByKind.filterMap_eq {β : Type} (h : SameByKind intents intents') (kind : Kind)
    {f : Intent → Option β} (hf : ∀ intent : Intent, intent.kind ≠ kind → f intent = none) :
    intents.filterMap f = intents'.filterMap f := by
  have hkind : ∀ intent : Intent, decide (intent.kind = kind) = false → f intent = none :=
    fun intent hintent => hf intent (of_decide_eq_false hintent)
  rw [← filterMap_filter_of_eq_none hkind intents, ← filterMap_filter_of_eq_none hkind intents']
  exact congrArg (List.filterMap f) (h kind)

/-- The same with any number of things for each intent. -/
theorem SameByKind.flatMap_eq {β : Type} (h : SameByKind intents intents') (kind : Kind)
    {f : Intent → List β} (hf : ∀ intent : Intent, intent.kind ≠ kind → f intent = []) :
    intents.flatMap f = intents'.flatMap f := by
  have hkind : ∀ intent : Intent, decide (intent.kind = kind) = false → f intent = [] :=
    fun intent hintent => hf intent (of_decide_eq_false hintent)
  rw [← flatMap_filter_of_eq_nil hkind intents, ← flatMap_filter_of_eq_nil hkind intents']
  exact congrArg (List.flatMap f) (h kind)

/-- The lists have the same intents in all. -/
theorem SameByKind.mem_iff (h : SameByKind intents intents') (intent : Intent) :
    intent ∈ intents ↔ intent ∈ intents' := by
  have hmem : ∀ l : List Intent, intent ∈ ofKind intent.kind l ↔ intent ∈ l := by
    simp [ofKind]
  rw [← hmem intents, ← hmem intents', h]

/-- What some words ask for. -/
def ofWords (ws : List String) : List Intent := ws.map fun word => ofWord word.toList

/-- Whether all words are of known kinds other than `i`, which ends a line. -/
def AllKnown (intents : List Intent) : Prop :=
  ∀ intent ∈ intents, intent.kind ≠ .info ∧ intent.kind ≠ .unknown

instance (intents : List Intent) : Decidable (AllKnown intents) :=
  inferInstanceAs (Decidable (∀ intent ∈ intents, _ ∧ _))

/-- Nothing is cut off a line without `i`. -/
theorem AllKnown.upToInfo_eq (h : AllKnown intents) : upToInfo intents = intents := by
  induction intents with
  | nil => rfl
  | cons intent rest ih =>
    have hrest := ih fun later hlater => h later (List.mem_cons_of_mem intent hlater)
    have hinfo := (h intent List.mem_cons_self).1
    cases intent with
    | info => exact absurd rfl hinfo
    | _ => simp only [upToInfo, hrest]

/-- A line of known words does not start with an unknown one. -/
theorem AllKnown.startsUnknown_relevant (h : AllKnown intents) :
    startsUnknown (relevant intents) = false := by
  rw [Bool.eq_false_iff]
  intro hstarts
  obtain ⟨word, hword⟩ := startsUnknown_iff.mp hstarts
  have hmem := upToInfo_subset _ (List.mem_filter.mp (List.mem_of_head? hword)).1
  exact (h _ hmem).2 rfl

end Intent

open Intent

/-- A command has a place for each kind, so how the kinds alternate makes no difference. -/
theorem Command.foldl_add_congr {intents intents' : List Intent}
    (h : SameByKind intents intents') (c : Command) :
    intents.foldl add c = intents'.foldl add c := by
  have hinfo : intents.contains .info = intents'.contains .info := by
    simpa using h.mem_iff .info
  rw [foldl_add, foldl_add, hinfo,
    h.filterMap_eq .select (f := selection?) fun intent hkind => by cases intent <;> trivial,
    h.filterMap_eq .time (f := time?) fun intent hkind => by cases intent <;> trivial,
    h.filterMap_eq .yRange (f := yRange?) fun intent hkind => by cases intent <;> trivial,
    h.flatMap_eq .options (f := optionChanges) fun intent hkind => by cases intent <;> trivial,
    h.filterMap_eq .invalid (f := invalid?) fun intent hkind => by cases intent <;> trivial,
    h.filterMap_eq .unknown (f := unknown?) fun intent hkind => by cases intent <;> trivial]

namespace Line

variable {ws ws' : List String}

/-- A line of known words is a command, unless it ends the session or asks for nothing. -/
theorem parse_join (hne : ws ≠ []) (hwords : ∀ word ∈ ws, IsWord word)
    (hknown : AllKnown (ofWords ws)) :
    parse (join " " ws) =
      if join " " ws ∈ quitTexts then .quit
      else if ∀ intent ∈ ofWords ws, intent.isIdle = true then .verbatim (join " " ws)
      else .command ((ofWords ws).foldl Command.add {}).anchored := by
  have hasked : Intent.asked (trim (join " " ws).toList) = relevant (ofWords ws) := by
    rw [trim_join hwords, asked, words_join hwords, List.map_map]
    rfl
  have hidle : relevant (ofWords ws) = [] ↔ ∀ intent ∈ ofWords ws, intent.isIdle = true := by
    unfold relevant
    rw [hknown.upToInfo_eq, List.filter_eq_nil_iff]
    simp
  -- No word is unknown or asks for the summary, so every intent counts.
  rw [parse_eq]
  dsimp only
  rw [hasked, Command.foldl_add_relevant, hknown.upToInfo_eq, hknown.startsUnknown_relevant,
    trim_join hwords, if_neg (toList_join_ne_nil hne hwords), String.ofList_toList]
  simp only [hidle, Bool.false_eq_true, or_false]

/-- Only a line of one word ends the session. -/
theorem length_eq_one_of_join_mem_quitTexts (hwords : ∀ word ∈ ws, IsWord word)
    (h : join " " ws ∈ quitTexts) : ws.length = 1 := by
  have hlengths : ∀ text ∈ quitTexts, (words text.toList).length = 1 := by decide
  have hlength := hlengths _ h
  rwa [words_join hwords, List.length_map] at hlength

/-- The same words in another order, but for those of one kind, which keep theirs. -/
structure KeepsKinds (ws ws' : List String) : Prop where
  perm : ws.Perm ws'
  order : ∀ kind, ws.filter (fun word => (ofWord word.toList).kind = kind) =
    ws'.filter fun word => (ofWord word.toList).kind = kind

/-- Words that keep their order within each kind ask for the same things of every kind. -/
theorem KeepsKinds.sameByKind (h : KeepsKinds ws ws') :
    SameByKind (ofWords ws) (ofWords ws') := by
  intro kind
  unfold ofKind ofWords
  rw [List.filter_map, List.filter_map]
  exact congrArg _ (h.order kind)

/-- There is nothing to reorder if all words are of one kind. -/
theorem KeepsKinds.eq_of_forall_kind (h : KeepsKinds ws ws') (kind : Intent.Kind)
    (hkind : ∀ word ∈ ws, (ofWord word.toList).kind = kind) : ws = ws' := by
  have hws : ∀ word ∈ ws, decide ((ofWord word.toList).kind = kind) = true :=
    fun word hword => decide_eq_true (hkind word hword)
  have hws' : ∀ word ∈ ws', decide ((ofWord word.toList).kind = kind) = true :=
    fun word hword => hws word (h.perm.mem_iff.mpr hword)
  rw [← List.filter_eq_self.mpr hws, ← List.filter_eq_self.mpr hws']
  exact h.order kind

/-- There is nothing to reorder in a single word. -/
theorem KeepsKinds.eq_of_length (h : KeepsKinds ws ws') (hlength : ws.length = 1) : ws = ws' := by
  obtain ⟨word, rfl⟩ := List.length_eq_one_iff.mp hlength
  exact (List.perm_singleton.mp h.perm.symm).symm

/-- Lines of known words are the same if they differ in the order of kinds only. -/
theorem parse_join_of_keepsKinds (hne : ws ≠ []) (hwords : ∀ word ∈ ws, IsWord word)
    (hknown : AllKnown (ofWords ws)) (h : KeepsKinds ws ws') :
    parse (join " " ws') = parse (join " " ws) := by
  by_cases hsame : ws = ws'
  · rw [hsame]
  have hmem : ∀ word, word ∈ ws' → word ∈ ws := fun word => h.perm.mem_iff.mpr
  have hne' : ws' ≠ [] := fun hnil => hne (List.perm_nil.mp (hnil ▸ h.perm))
  have hwords' : ∀ word ∈ ws', IsWord word := fun word hword => hwords word (hmem word hword)
  have hintents : ∀ intent, intent ∈ ofWords ws' ↔ intent ∈ ofWords ws :=
    fun intent => h.sameByKind.mem_iff intent |>.symm
  -- With something to reorder, neither line quits, and neither asks for nothing.
  have hlength : ws.length ≠ 1 := fun hone => hsame (h.eq_of_length hone)
  have hquit : join " " ws ∉ quitTexts := fun hmem =>
    hlength (length_eq_one_of_join_mem_quitTexts hwords hmem)
  have hquit' : join " " ws' ∉ quitTexts := fun hmem =>
    hlength (h.perm.length_eq.trans (length_eq_one_of_join_mem_quitTexts hwords' hmem))
  have hidle : ¬∀ intent ∈ ofWords ws, intent.isIdle = true := by
    intro hall
    refine hsame (h.eq_of_forall_kind .options fun word hword => ?_)
    rw [isIdle_iff.mp (hall _ (List.mem_map_of_mem hword))]
    rfl
  have hidle' : ¬∀ intent ∈ ofWords ws', intent.isIdle = true := by
    simpa only [hintents] using hidle
  have hknown' : AllKnown (ofWords ws') := fun intent hintent =>
    hknown intent ((hintents intent).mp hintent)
  rw [parse_join hne hwords hknown, parse_join hne' hwords' hknown', if_neg hquit, if_neg hquit',
    if_neg hidle, if_neg hidle', Command.foldl_add_congr h.sameByKind]

end Line

end SeriesPlot
