import SeriesPlot.Proofs.Source.LastColumn
import SeriesPlot.Proofs.Source.Scan
import SeriesPlot.Proofs.Text.Fields
import SeriesPlot.Source.Summary

/-!
# `SeriesPlot.Proofs.Source.Header`: columns are the fields of the header

The header of a file is the first of its first lines that has the word for it
(`Scan.header_ofBytes`), and its fields name the columns, field `c` the column `c`
(`Source.names_of_ofBytes`). The first field names the time column and is dropped, so a list
of names starts at column 2. The lookup of a name and the lines of the overview each undo
that shift on their own:

* `Source.columnName?_eq`: the name of a column is the field of the same number.
* `Source.columnsText_eq`: the overview lists the columns under the numbers of their fields.
* `Source.lastColumn_eq`: the last column is the one of the last field.

Numbers are words of 16 bits, so the last two hold up to the highest one. A header has one field
more than there are names (`Source.length_names_lt`), so that is one name less than there are
numbers.
-/

set_option autoImplicit false

namespace SeriesPlot

open SeriesPlot.Text

/-- The first line that has the word for a header, of those in the head of a file. -/
def headerLine? (bytes : List UInt8) : Option (List UInt8) :=
  (((lines bytes).map dropReturn).take scanDepth).find? isHeader

/-- The comma-separated fields of a header without the white space around each. -/
def headerFields (header : List UInt8) : List String :=
  (splitOn ',' (Utf8.decodeLossy header)).map fun field => String.ofList (trim field)

namespace Scan

/-- The header that is kept of a file is the first one in its head. -/
theorem header_ofBytes (bytes : List UInt8) : (ofBytes bytes).header = headerLine? bytes := by
  rw [ofBytes_eq]
  rfl

end Scan

/-- All fields but the first are names of columns. They are trimmed each, so white space
around the whole header makes no difference. -/
theorem columnNames_eq (header : List UInt8) :
    columnNames header = (headerFields header).drop 1 := by
  have hfields : (splitOn ',' (trim (Utf8.decodeLossy header))).map trim =
      (splitOn ',' (Utf8.decodeLossy header)).map trim :=
    map_trim_splitOn_trim (by decide) _
  have hnames := congrArg (fun fields => (fields.map String.ofList).drop 1) hfields
  simpa only [columnNames, headerFields, List.map_map, List.map_drop, Function.comp_def] using
    hnames

/-- Without a header there are no names, as there are no fields. -/
theorem getD_map_columnNames (header? : Option (List UInt8)) :
    (header?.map columnNames).getD [] = ((header?.map headerFields).getD []).drop 1 := by
  cases header? with
  | none => rfl
  | some header => exact columnNames_eq header

namespace Source

variable {s : Source} {fields : List String}

/-- Apart from its times, what is known of a file is its label and the fields of its header. -/
theorem names_of_ofBytes {letter : Char} {label : String} {bytes : List UInt8}
    (h : ofBytes letter label bytes = .ok s) :
    s.label = label ∧ s.names = (((headerLine? bytes).map headerFields).getD []).drop 1 := by
  rw [← getD_map_columnNames, ← Scan.header_ofBytes]
  unfold ofBytes at h
  dsimp only at h
  split at h
  · -- Both times have been read, or there would be no source.
    rename_i first last _ _
    cases hstart : sampleTime first with
    | error e => simp [hstart, Except.mapError, bind, Except.bind] at h
    | ok start =>
      cases hstop : sampleTime last with
      | error e => simp [hstart, hstop, Except.mapError, bind, Except.bind] at h
      | ok stop =>
        simp only [hstart, hstop, Except.mapError, bind, Except.bind, pure, Except.pure,
          Except.ok.injEq] at h
        rw [← h]
        exact ⟨rfl, rfl⟩
  · cases h

/-- A header has one field more than there are names. Up to the highest column number, that is
one name less than there are numbers. -/
theorem length_names_lt (hnames : s.names = fields.drop 1) (hlimit : fields.length ≤ columnLimit) :
    s.names.length < columnLimit := by
  rw [hnames, List.length_drop]
  unfold columnLimit at *
  omega

/-- The last column is the one of the last field. -/
theorem lastColumn_eq (hnames : s.names = fields.drop 1) (hne : fields ≠ [])
    (hlimit : fields.length ≤ columnLimit) : s.lastColumn = fields.length := by
  have hlength := List.length_pos_iff.mpr hne
  rw [lastColumn_of_lt (length_names_lt hnames hlimit), timeColumn, hnames, List.length_drop]
  omega

/-- The name of a column is the field of the same number. -/
theorem columnName?_eq (hnames : s.names = fields.drop 1) (column : Nat) :
    s.columnName? column =
      if firstValueColumn ≤ column ∧ column ≤ fields.length then
        some (fields[column - 1]?.getD "")
      else none := by
  rw [columnName?, hnames, List.getElem?_drop, firstValueColumn, timeColumn]
  by_cases hfirst : column < 2
  · rw [if_pos hfirst, if_neg (by omega)]
  · have hfield : 1 + (column - 2) = column - 1 := by omega
    rw [if_neg hfirst, hfield]
    by_cases hlast : column ≤ fields.length
    · rw [if_pos (by omega), List.getElem?_eq_getElem (by omega)]
      rfl
    · rw [if_neg (by omega), List.getElem?_eq_none (by omega)]

/-- The overview lists the columns under the numbers of their fields. -/
theorem columnsText_eq (hnames : s.names = fields.drop 1)
    (hlimit : fields.length ≤ columnLimit) :
    s.columnsText = s.letter.toString ++ " = " ++ s.label ++ "\n"
      ++ String.join ((List.range' firstValueColumn (fields.length - 1)).map fun column =>
        s.columnLine column (fields[column - 1]?.getD "")) ++ "\n" := by
  have hlines : (s.names.mapIdx fun i name =>
      s.columnLine (wrapColumn (firstValueColumn + i)) name) =
      (List.range' firstValueColumn (fields.length - 1)).map fun column =>
        s.columnLine column (fields[column - 1]?.getD "") := by
    refine List.ext_getElem (by simp [hnames]) ?_
    intro i hi _
    -- Names and fields differ by the first field, and numbers and places by one more.
    have hfield : i + 1 < fields.length := by
      rw [List.length_mapIdx, hnames, List.length_drop] at hi
      omega
    have hshift : firstValueColumn + i - 1 = i + 1 := by
      rw [firstValueColumn, timeColumn]
      omega
    have hnumber : wrapColumn (firstValueColumn + i) = firstValueColumn + i :=
      wrapColumn_eq_self (by rw [firstValueColumn, timeColumn]; omega)
    simp [hnames, hnumber, hshift, hfield]
  rw [columnsText, hlines]

end Source

/-- A file with white space around the fields of its header and before the line feed. -/
def spacedFile : List UInt8 :=
  ("# Fields, temp ,rh \r\n2013-06-01 00:00:00,1,2\n2013-06-01 10:00:00,3,4\n".toList).map
    Char.toUInt8

end SeriesPlot
