import SeriesPlot.Proofs.Directive.Title
import SeriesPlot.Proofs.Source.Header

/-!
# `SeriesPlot.Proofs.Directive.Columns`: one number for a column everywhere

A column has one number. It is counted off the header, shown in the overview and used in the
clause that draws the column, by three functions that each count for themselves.

* `SourceSet.exists_summary_eq`: the overview lists the sources one after the other, so the lines
  of a source stand in it wherever the source is in the set.
* `Selection.series_of_letter`: a bare letter draws all columns of its source, and as no other
  source is active the legends bear no tags (`Selection.length_activeSources_of_letter`).
* `Source.column_numbers_agree`: with what a header says about its source this follows a field of
  the header to the overview and to the clause that draws it, under the same number.

Numbers are words of 16 bits, so this holds up to the highest one (`columnLimit`).
-/

set_option autoImplicit false

namespace SeriesPlot

open SeriesPlot.Proofs.Support

variable {given : List Source} {set : SourceSet} {s : Source}

namespace SourceSet

/-- The overview has the columns of a source after those of the sources before it. -/
theorem exists_summary_eq {i : Nat} (h : set.sources[i]? = some s) :
    ∃ after, set.summary =
      "\n" ++ String.join ((set.sources.take i).map Source.columnsText) ++
        s.columnsText ++ after := by
  obtain ⟨hi, hs⟩ := List.getElem?_eq_some_iff.mp h
  -- The list is cut around the source, and the text is joined of the same three parts.
  have hsplit : set.sources = set.sources.take i ++ s :: set.sources.drop (i + 1) := by
    rw [← hs, ← List.drop_eq_getElem_cons, List.take_append_drop]
  have hjoin : String.join (set.sources.map Source.columnsText) =
      String.join ((set.sources.take i).map Source.columnsText) ++ s.columnsText ++
        String.join ((set.sources.drop (i + 1)).map Source.columnsText) := by
    conv => lhs; rw [hsplit]
    rw [List.map_append, String.join_append, List.map_cons, String.join_cons, String.append_assoc]
  unfold summary
  rw [hjoin]
  simp only [String.append_assoc]
  exact ⟨_, rfl⟩

end SourceSet

namespace Selection

/-- A bare letter draws the columns of its source, one series each. -/
theorem series_of_letter (hset : SourceSet.ofSources given = .ok set) (hs : s ∈ set.sources) :
    (ofItems [⟨some s.letter, none⟩]).series set =
      s.columns.map fun column => ⟨s, column⟩ := by
  have hget : set.get? s.letter = some s := (SourceSet.get?_eq_some_iff hset).mpr ⟨hs, rfl⟩
  refine series_eq_of_flatMap_eq ?_ ?_ ?_
  · simp [ofItems, List.eraseDups_cons, Item.series, hget]
  · -- The columns of a source are those that it may have.
    intro drawn hdrawn
    obtain ⟨column, hcolumn, rfl⟩ := List.mem_map.mp hdrawn
    obtain ⟨hfirst, hlast⟩ := Source.mem_columns_iff.mp hcolumn
    simp [Source.mayHave, hfirst, hlast]
  · refine List.pairwise_map.mpr ((List.nodup_range' ..).imp ?_)
    intro a b hne
    simp [Series.same, hne.symm]

/-- No other source has the letter. -/
theorem length_activeSources_of_letter (hset : SourceSet.ofSources given = .ok set)
    (hs : s ∈ set.sources) :
    ((ofItems [⟨some s.letter, none⟩]).activeSources set).length = 1 := by
  have hcount : (set.sources.map (·.letter)).count s.letter = 1 := by
    rw [(SourceSet.nodup_letters hset).count, if_pos (List.mem_map_of_mem hs)]
  have hletters : (ofItems [⟨some s.letter, none⟩]).letters = [s.letter] := by
    simp [ofItems, letters, List.eraseDups_cons]
  have hactive : (ofItems [⟨some s.letter, none⟩]).activeSources set =
      set.sources.filter ((· == s.letter) ∘ (·.letter)) := by
    refine List.filter_congr ?_
    intro source _
    rw [hletters, List.contains_cons, List.contains_nil, Bool.or_false]
    rfl
  rw [hactive, ← List.countP_eq_length_filter, ← hcount, List.count, List.countP_map]

end Selection

/-- The clause of a column with a name, where the legend bears no tag. -/
theorem Series.clause_of_columnName? {column : Nat} {name : String}
    (h : s.columnName? column = some name) (c : Config) :
    (⟨s, column⟩ : Series).clause c false =
      let value := "$" ++ toString column
      let guarded := match c.missing with
        | none => value
        | some test => value ++ test.text ++ "?1/0:" ++ value
      "'<sed -n \"s/^[0-9]/&/p\" " ++ s.label ++ "' u 1:(" ++ guarded ++ ") t '" ++ name ++ "' w "
        ++ c.style.text ++ " lw " ++ c.lineWidth.text := by
  have hfilter : "'<sed -n \"s/^[0-9]/&/p\" " = "'" ++ rowFilter := by decide
  have htime : "' u 1:(" = "' u " ++ (toString timeColumn ++ ":(") := by decide
  have hlegend : ") t '" = ")" ++ " t '" := by decide
  rw [hfilter, htime, hlegend]
  -- Only the test for missing values is written in one of two ways.
  cases hmissing : c.missing <;>
    simp only [clause, columnsText, legend, h, hmissing, Option.getD_some, Bool.false_eq_true,
      if_false, String.append_assoc]

/-- The number of a column is that of its field in the header, wherever the source stands in a
set. Under that number the source has the field as a name, without the white space around it,
and no names under others. Up to the highest column number, the last field is the last column
and the overview lists the names in order, each after its number. If the letter alone is
selected, the columns are drawn in order too. The plotter is told to read each by its number,
and the legend is the name. -/
theorem Source.column_numbers_agree {letter : Char} {label : String} {bytes header : List UInt8}
    {i : Nat} {source : Source}
    (hset : SourceSet.ofSources given = .ok set) (hgiven : given[i]? = some source)
    (hread : Source.ofBytes letter label bytes = .ok source)
    (hheader : headerLine? bytes = some header) (hfields : 2 ≤ (headerFields header).length) :
    let last := (headerFields header).length
    let name (column : Nat) : String := (headerFields header)[column - 1]?.getD ""
    let clause (c : Config) (column : Nat) : String :=
      let value := "$" ++ toString column
      let guarded := match c.missing with
        | none => value
        | some test => value ++ test.text ++ "?1/0:" ++ value
      "'<sed -n \"s/^[0-9]/&/p\" " ++ label ++ "' u 1:(" ++ guarded ++ ") t '" ++ name column
        ++ "' w " ++ c.style.text ++ " lw " ++ c.lineWidth.text
    ∃ s, set.sources[i]? = some s ∧ sourceLetters[i]? = some s.letter ∧
      (∀ column, s.columnName? column =
        if 2 ≤ column ∧ column ≤ last then some (name column) else none) ∧
      (last ≤ columnLimit → s.lastColumn = last) ∧
      (last ≤ columnLimit → ∃ after, set.summary =
        "\n" ++ String.join ((set.sources.take i).map Source.columnsText)
          ++ (s.letter.toString ++ " = " ++ label ++ "\n"
            ++ String.join ((List.range' 2 (last - 1)).map fun column =>
              "  " ++ s.letter.toString ++ padEnd 2 (toString column) ++ " = " ++ name column
                ++ "\n") ++ "\n")
          ++ after) ∧
      (last ≤ columnLimit → ∀ c : Config, c.selection = .ofItems [⟨some s.letter, none⟩] →
        ∃ p, Plot.ofConfig? c set = some p ∧
          p.draw = "plot ['" ++ c.window.start.minuteText ++ "':'" ++ c.window.stop.minuteText
            ++ "'][" ++ c.yRange.text ++ "] "
            ++ Text.join ", " ((List.range' 2 (last - 1)).map (clause c))) := by
  intro last name clause
  obtain ⟨own, hletter, hs⟩ := SourceSet.exists_getElem?_sources hset hgiven
  let s : Source := { source with letter := own }
  have hmem : s ∈ set.sources := List.mem_of_getElem? hs
  obtain ⟨hlabel, hnames⟩ : s.label = label ∧ s.names = (headerFields header).drop 1 := by
    have hread := Source.names_of_ofBytes hread
    rwa [hheader] at hread
  have hne : headerFields header ≠ [] := List.length_pos_iff.mp (by omega)
  -- With its names known to be fields, each reader of the source is a lemma on fields.
  refine ⟨s, hs, hletter, Source.columnName?_eq hnames, Source.lastColumn_eq hnames hne, ?_, ?_⟩
  · intro hlimit
    obtain ⟨after, hsummary⟩ := SourceSet.exists_summary_eq hs
    rw [Source.columnsText_eq hnames hlimit, hlabel] at hsummary
    exact ⟨after, hsummary⟩
  · intro hlimit c hselection
    have hseries : c.selection.series set =
        (List.range' 2 (last - 1)).map fun column => ⟨s, column⟩ := by
      rw [hselection, Selection.series_of_letter hset hmem,
        Source.columns_of_lt (Source.length_names_lt hnames hlimit), hnames, List.length_drop]
      rfl
    have hdrawn : c.selection.series set ≠ [] := by
      rw [hseries]
      simpa using (by omega : last - 1 ≠ 0)
    -- A single source is active, so the legends are the bare names.
    have huntagged : (1 < (c.selection.activeSources set).length) = False := by
      rw [hselection, Selection.length_activeSources_of_letter hset hmem]
      simp
    refine ⟨_, (Plot.ofConfig?_eq c set).trans (if_neg hdrawn), ?_⟩
    show c.drawDirective set (c.selection.series set) = _
    have hclauses : (c.selection.series set).map (·.clause c false) =
        (List.range' 2 (last - 1)).map (clause c) := by
      rw [hseries, List.map_map]
      refine List.map_congr_left ?_
      intro column hcolumn
      have hname : s.columnName? column = some (name column) := by
        obtain ⟨hfirst, hend⟩ := List.mem_range'_1.mp hcolumn
        rw [Source.columnName?_eq hnames, if_pos ⟨hfirst, by omega⟩]
      rw [Function.comp_apply, Series.clause_of_columnName? hname c, hlabel]
    simp only [Config.drawDirective, huntagged, decide_false, hclauses]

/-- The file is the second one of its set here. -/
theorem Source.column_numbers_agree_of_second_file :
    let source := pairOfFiles.sources[0]
    let given := pairOfFiles.sources.reverse
    Source.ofBytes 'a' "a.csv" spacedFile = .ok source ∧ given[1]? = some source ∧
      ∃ set s, SourceSet.ofSources given = .ok set ∧ set.sources[1]? = some s ∧
        s.letter = 'b' ∧ s.lastColumn = 3 ∧ s.columnName? 1 = none ∧
        s.columnName? 2 = some "temp" ∧ s.columnName? 3 = some "rh" ∧
        ∃ p, Plot.ofConfig? (pairOfFiles.config [⟨some s.letter, none⟩]) set = some p := by
  intro source given
  have hread : Source.ofBytes 'a' "a.csv" spacedFile = .ok source := by decide +kernel
  have hgiven : given[1]? = some source := rfl
  have hheader : headerLine? spacedFile =
      some ("# Fields, temp ,rh ".toList.map Char.toUInt8) := by
    decide +kernel
  obtain ⟨s, hs, hletter, hname, hlast, -, hdraw⟩ :=
    Source.column_numbers_agree rfl hgiven hread hheader (by decide +kernel)
  have hlimit : (headerFields ("# Fields, temp ,rh ".toList.map Char.toUInt8)).length ≤
      columnLimit := by decide +kernel
  obtain ⟨p, hplot, -⟩ := hdraw hlimit (pairOfFiles.config [⟨some s.letter, none⟩]) rfl
  exact ⟨hread, hgiven, _, s, rfl, hs, (Option.some.inj hletter).symm,
    (hlast hlimit).trans (by decide +kernel), (hname 1).trans (by decide +kernel),
    (hname 2).trans (by decide +kernel), (hname 3).trans (by decide +kernel), p, hplot⟩

end SeriesPlot
