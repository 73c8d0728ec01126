import SeriesPlot.Proofs.Command.Selector

/-!
# `SeriesPlot.Proofs.Command.Shown`: what is shown can be typed

The summary of the state shows the selection, the style and the test for missing values. Each
of them is written in one way, whichever of the ways to type it was used, and a word made of
what is written asks for the same value again (`Intent.shown_reads_back`).

* `PlotStyle.ofName_text_ofName`: a style is the one that its text names, whether it has a name of
  its own or is kept as it was typed.
* `MissingTest.parse?_text_of_parse?`: a test is read back from its text. The operator of a test is
  the longest one that its text starts with. The rest of the text is the operand, and next to the
  operator it reads as it did, as long as no white space stood between the two: without it `< =5`
  would be another test.
* `Intent.ofWord_text`: a selection is read back as a word, with the exception of the source `i`
  as a whole.

Options stand in a list with commas, so the value of one has no comma, and neither has its text.
This is why a single assignment is a list again (`OptionChange.parseList_assignment`).
-/

set_option autoImplicit false

namespace SeriesPlot

open SeriesPlot.Text

namespace PlotStyle

/-- The styles with a name of their own. -/
def named : List PlotStyle := [lines, points, linesPoints, dots, impulses, steps, boxes]

/-- A name stands for one of the named styles, or it is kept without the white space. -/
theorem ofName_cases (name : String) :
    ofName name ∈ named ∨ ofName name = other (String.ofList (trim name.toList)) := by
  unfold ofName
  dsimp only
  split
  case h_13 => exact .inr rfl
  all_goals
    left
    decide

/-- White space around a name does not matter. -/
theorem ofName_trim (name : String) :
    ofName (String.ofList (trim name.toList)) = ofName name := by
  unfold ofName
  rw [String.toList_ofList, trim_trim]

/-- A style is the one that its text names. -/
theorem ofName_text_ofName (name : String) : ofName (ofName name).text = ofName name := by
  have hnamed : ∀ style ∈ named, ofName style.text = style := by decide
  rcases ofName_cases name with h | h
  · exact hnamed _ h
  · rw [h, text, ofName_trim, h]

/-- A style is written without white space at its ends. -/
theorem trim_text_ofName (name : String) :
    trim (ofName name).text.toList = (ofName name).text.toList := by
  have hnamed : ∀ style ∈ named, trim style.text.toList = style.text.toList := by decide
  rcases ofName_cases name with h | h
  · exact hnamed _ h
  · rw [h, text, String.toList_ofList, trim_trim]

/-- A style from a name without a comma is written without one. -/
theorem comma_not_mem_text_ofName {name : String} (h : ',' ∉ name.toList) :
    ',' ∉ (ofName name).text.toList := by
  have hnamed : ∀ style ∈ named, ',' ∉ style.text.toList := by decide
  rcases ofName_cases name with hstyle | hstyle
  · exact hnamed _ hstyle
  · rw [hstyle, text, String.toList_ofList]
    exact fun hmem => h (mem_of_mem_trim hmem)

end PlotStyle

namespace MissingTest

/-- Without white space in it, a test is written as it was typed, or with the operator that a
bare number leaves out. -/
theorem text_cases_of_parse? {text : String} {m : MissingTest}
    (hblank : ∀ c ∈ text.toList, isBlank c = false) (h : parse? text = some m) :
    m.text = text ∨ m = ⟨.equal, text⟩ := by
  -- Nothing is trimmed off, so what is cut in two is the text itself.
  have htrim : ∀ count, trim (text.toList.drop count) = text.toList.drop count := fun count =>
    trim_of_forall fun c hc => hblank c (List.mem_of_mem_drop hc)
  have hwhole : trim text.toList = text.toList := htrim 0
  unfold parse? at h
  rw [hwhole] at h
  dsimp only at h
  split at h
  · rename_i comparison hfind
    rw [htrim] at h
    split at h
    · cases h
    · cases h
      left
      have hstarts := List.find?_some hfind
      have hprefix : comparison.symbol <+: text.toList := List.isPrefixOf_iff_prefix.mp hstarts
      rw [MissingTest.text, ← String.ofList_append, List.prefix_iff_eq_append.mp hprefix,
        String.ofList_toList]
  · obtain ⟨value, -, rfl⟩ := Option.map_eq_some_iff.mp h
    rw [String.ofList_toList]
    exact .inr rfl

/-- Any text without white space is an operand to be equal to. -/
theorem parse?_equal {operand : String} (hne : operand ≠ "")
    (hblank : ∀ c ∈ operand.toList, isBlank c = false) :
    parse? ("==" ++ operand) = some ⟨.equal, operand⟩ := by
  have htext : ("==" ++ operand).toList = '=' :: '=' :: operand.toList := by simp
  have htrim : trim ("==" ++ operand).toList = '=' :: '=' :: operand.toList := by
    rw [htext]
    refine trim_of_forall ?_
    simpa using ⟨by decide, hblank⟩
  unfold parse?
  rw [htrim]
  show (if (trim operand.toList).isEmpty then none
    else some (MissingTest.mk .equal (String.ofList (trim operand.toList)))) = _
  rw [trim_of_forall hblank, if_neg (by simpa using hne), String.ofList_toList]

/-- A test that was read without white space is read back from its text. -/
theorem parse?_text_of_parse? {text : String} {m : MissingTest}
    (hblank : ∀ c ∈ text.toList, isBlank c = false) (h : parse? text = some m) :
    parse? m.text = some m := by
  rcases text_cases_of_parse? hblank h with htext | rfl
  · rw [htext, h]
  · exact parse?_equal (wellFormed_of_parse? h).1 hblank

/-- Its text brings no comma in. -/
theorem comma_not_mem_text_of_parse? {text : String} {m : MissingTest}
    (hblank : ∀ c ∈ text.toList, isBlank c = false) (hcomma : ',' ∉ text.toList)
    (h : parse? text = some m) : ',' ∉ m.text.toList := by
  rcases text_cases_of_parse? hblank h with htext | rfl
  · rwa [htext]
  · simpa [MissingTest.text, Comparison.symbol] using hcomma

end MissingTest

namespace OptionChange

/-- A style or a test for missing values is what a text reads as. -/
def IsReadFrom (value : String) : OptionChange → Prop
  | .style s => s = .ofName value
  | .missing m => MissingTest.parse? value = some m
  | _ => True

/-- A style or a test that an option sets is read from its value. -/
theorem isReadFrom_ofAssignment (name value : String) :
    (ofAssignment name value).IsReadFrom value := by
  unfold ofAssignment
  split
  -- Only a style and a test are claimed to be read from the value.
  case h_1 | h_2 | h_3 =>
    split
    · exact trivial
    · rfl
  case h_4 | h_5 =>
    split
    · split <;> exact trivial
    · exact trivial
  case h_6 | h_7 =>
    split
    · assumption
    · exact trivial
  all_goals exact trivial

/-- An option without a value sets neither. -/
theorem isReadFrom_ofName (name value : String) : (ofName name).IsReadFrom value := by
  unfold ofName
  split <;> exact trivial

/-- The values that options set are read from texts between the commas of the list. -/
theorem exists_isReadFrom_of_mem_parseList {text : List Char} {change : OptionChange}
    (h : change ∈ parseList text) :
    ∃ value : String, change.IsReadFrom value ∧ ',' ∉ value.toList ∧
      ∀ c ∈ value.toList, c ∈ text := by
  obtain ⟨item, hitem, rfl⟩ := List.mem_map.mp h
  have hpiece : item ∈ splitOn ',' text := (List.mem_filter.mp hitem).1
  unfold ofItem
  split
  · rename_i name value hcut
    -- The value is a part of an item, which is a piece between two commas.
    have hvalue : ∀ c ∈ (String.ofList value).toList, c ∈ item := by
      intro c hc
      rw [String.toList_ofList] at hc
      exact (mem_of_cutAt?_eq_some hcut).2 hc
    exact ⟨String.ofList value, isReadFrom_ofAssignment _ _,
      fun hcomma => not_mem_of_mem_splitOn hpiece (hvalue ',' hcomma),
      fun c hc => mem_of_mem_splitWhere hpiece (hvalue c hc)⟩
  · exact ⟨"", isReadFrom_ofName _ _, by simp, by simp⟩

/-- A single assignment is a list of options. -/
theorem parseList_assignment {name value : String} (hname : ',' ∉ name.toList ∧ '=' ∉ name.toList)
    (hvalue : ',' ∉ value.toList) :
    parseList (name ++ "=" ++ value).toList = [ofAssignment name value] := by
  have htext : (name ++ "=" ++ value).toList = name.toList ++ '=' :: value.toList := by simp
  have hcomma : ',' ∉ name.toList ++ '=' :: value.toList := by simp [hname.1, hvalue]
  have hitem : ofItem (name.toList ++ '=' :: value.toList) = ofAssignment name value := by
    rw [ofItem, cutAt?_append hname.2]
    simp
  rw [parseList, htext, splitOn, splitWhere_eq_singleton (beq_separator_of_not_mem hcomma)]
  simp [hitem]

/-- What the option for the style does with a value. -/
theorem ofAssignment_style (value : String) :
    ofAssignment "style" value =
      if (trim value.toList).isEmpty then invalidValue "style" value
      else style (.ofName value) := rfl

/-- What the option for missing values does with a value. -/
theorem ofAssignment_mis (value : String) :
    ofAssignment "mis" value = match MissingTest.parse? value with
      | some test => missing test
      | none => invalidValue "mis" value := rfl

/-- A style that was set by an option is set again by the option with its text. -/
theorem parseList_style {text : List Char} {s : PlotStyle} (h : style s ∈ parseList text) :
    parseList ("style" ++ "=" ++ s.text).toList = [style s] := by
  have hname : s.text ≠ "" := wellFormed_of_mem_parseList h
  obtain ⟨value, hread, hcomma, -⟩ := exists_isReadFrom_of_mem_parseList h
  obtain rfl : s = .ofName value := hread
  rw [parseList_assignment (by decide) (PlotStyle.comma_not_mem_text_ofName hcomma),
    ofAssignment_style, PlotStyle.trim_text_ofName, if_neg (by simpa using hname),
    PlotStyle.ofName_text_ofName]

/-- So is a test for missing values, if it was typed without white space. -/
theorem parseList_missing {text : List Char} (hblank : ∀ c ∈ text, isBlank c = false)
    {m : MissingTest} (h : missing m ∈ parseList text) :
    parseList ("mis" ++ "=" ++ m.text).toList = [missing m] := by
  obtain ⟨value, hread, hcomma, htext⟩ := exists_isReadFrom_of_mem_parseList h
  have hparse : MissingTest.parse? value = some m := hread
  have hvalue : ∀ c ∈ value.toList, isBlank c = false := fun c hc => hblank c (htext c hc)
  rw [parseList_assignment (by decide)
    (MissingTest.comma_not_mem_text_of_parse? hvalue hcomma hparse), ofAssignment_mis,
    MissingTest.parse?_text_of_parse? hvalue hparse]

end OptionChange

/-- Every column of one source. -/
def Selection.whole (source : Char) : Selection := ⟨[⟨some source, none⟩]⟩

namespace Intent

/-- A word with a minus in front is a list of options. -/
theorem ofWord_append_toList (text : String) :
    ofWord ("-" ++ text).toList = .options (OptionChange.parseList text.toList) := by
  have htext : ("-" ++ text).toList = '-' :: text.toList := by simp
  rw [htext]
  rfl

/-- A word that is read as options is a list of them after its first character. -/
theorem eq_parseList_of_ofWord {word : List Char} {changes : List OptionChange}
    (h : ofWord word = .options changes) : changes = OptionChange.parseList word.tail := by
  have hreading := reading_ofWord word
  rw [h] at hreading
  cases hreading
  rfl

/-- The text of a selection is a word for it, unless it is the letter that asks for something
else. -/
theorem ofWord_text {word : List Char} {s : Selection} (h : ofWord word = .select (.select s)) :
    (s ≠ .whole 'i' → ofWord s.text.toList = .select (.select s)) ∧
      (s = .whole 'i' → s.text = "i" ∧ ofWord s.text.toList = .info) := by
  have hparse := (ofWord_eq_select_iff.mp h).1
  have hback := Selection.parse?_text (Selection.isTypable_of_parse? hparse).1
  constructor
  · intro hne
    refine ofWord_eq_select_iff.mpr ⟨hback, fun htext => hne ?_⟩
    rw [htext] at hback
    exact (Option.some.inj hback).symm
  · rintro rfl
    exact ⟨rfl, rfl⟩

/-- The selection, the style and the test for missing values that a word sets are shown as
texts that set them again. The one exception is the selection of the source `i` as a whole. -/
theorem shown_reads_back {word : List Char} (hword : ∀ c ∈ word, isBlank c = false) :
    (∀ s, ofWord word = .select (.select s) →
      (s ≠ .whole 'i' → ofWord s.text.toList = .select (.select s)) ∧
      (s = .whole 'i' → s.text = "i" ∧ ofWord s.text.toList = .info)) ∧
    ∀ changes, ofWord word = .options changes →
      (∀ s, .style s ∈ changes → ofWord ("-style=" ++ s.text).toList = .options [.style s]) ∧
      (∀ m, .missing m ∈ changes →
        ofWord ("-mis=" ++ m.text).toList = .options [.missing m]) := by
  refine ⟨fun s => ofWord_text, fun changes hchanges => ⟨fun s hs => ?_, fun m hm => ?_⟩⟩
  all_goals rw [eq_parseList_of_ofWord hchanges] at *
  · have htext : "-style=" ++ s.text = "-" ++ ("style" ++ "=" ++ s.text) := by
      simp [← String.append_assoc]
    rw [htext, ofWord_append_toList, OptionChange.parseList_style hs]
  · have htext : "-mis=" ++ m.text = "-" ++ ("mis" ++ "=" ++ m.text) := by
      simp [← String.append_assoc]
    have htail : ∀ c ∈ word.tail, isBlank c = false := fun c hc =>
      hword c (List.mem_of_mem_tail hc)
    rw [htext, ofWord_append_toList, OptionChange.parseList_missing htail hm]

/-- `b007,,i,b7` is shown as `b7,i` and `-ls=LP,miss=7` as `linespoints` and `==7`, all of which
read as the same. `,i,i` is shown as `i`, which does not. -/
theorem shown_reads_back_of_words :
    ofWord "b7,i".toList = ofWord "b007,,i,b7".toList ∧
    ofWord ",i,i".toList = .select (.select (.whole 'i')) ∧ ofWord "i".toList = .info ∧
    ofWord "-ls=LP,miss=7".toList = .options [.style .linesPoints, .missing ⟨.equal, "7"⟩] ∧
    ofWord "-style=linespoints".toList = .options [.style .linesPoints] ∧
    ofWord "-mis===7".toList = .options [.missing ⟨.equal, "7"⟩] := by
  have hcolumns : ofWord "b007,,i,b7".toList =
      .select (.select ⟨[⟨some 'b', some 7⟩, ⟨some 'i', none⟩]⟩) := by decide
  have hwhole : ofWord ",i,i".toList = .select (.select (.whole 'i')) := by decide
  have hoptions : ofWord "-ls=LP,miss=7".toList =
      .options [.style .linesPoints, .missing ⟨.equal, "7"⟩] := by decide
  have hcolumnsWord : IsWord "b007,,i,b7" := by decide
  have hwholeWord : IsWord ",i,i" := by decide
  have hoptionsWord : IsWord "-ls=LP,miss=7" := by decide
  obtain ⟨hstyles, htests⟩ := (shown_reads_back hoptionsWord.2).2 _ hoptions
  exact ⟨(((shown_reads_back hcolumnsWord.2).1 _ hcolumns).1 (by decide)).trans hcolumns.symm,
    hwhole, (((shown_reads_back hwholeWord.2).1 _ hwhole).2 rfl).2, hoptions,
    hstyles .linesPoints (by simp), htests ⟨.equal, "7"⟩ (by simp)⟩

end Intent

end SeriesPlot
