import Mathlib.Data.List.TakeWhile
import SeriesPlot.Proofs.Text.Words

/-!
# `SeriesPlot.Proofs.Text.Fields`: fields with white space around them

White space around a whole text belongs to the first and the last field of it. Where the
fields are trimmed one by one, it therefore makes no difference whether the text was trimmed
before it was cut (`map_trim_splitOn_trim`).

Fields that do not hold the separator can be joined with it and found again (`splitOn_join`),
and so can a name and its value (`cutAt?_append`). No piece of a cut text has the separator in it
(`not_mem_of_mem_splitOn`).

The two ends are dealt with one after the other: blanks before a text go to its first piece
(`exists_splitWhere_append_left`), and blanks after it to its last one
(`exists_splitWhere_append_right`).
-/

set_option autoImplicit false

namespace SeriesPlot.Text

variable {α : Type} {isSeparator : α → Bool}

/-! ### White space around a text -/

/-- What trimming takes away is white space at both ends. -/
theorem exists_eq_append_trim (text : List Char) :
    ∃ before after : List Char, (∀ c ∈ before, isBlank c = true) ∧
      (∀ c ∈ after, isBlank c = true) ∧ text = before ++ (trim text ++ after) := by
  refine ⟨text.takeWhile isBlank, ((trimStart text).reverse.takeWhile isBlank).reverse,
    fun c hc => List.mem_takeWhile_imp hc, fun c hc => ?_, ?_⟩
  · exact List.mem_takeWhile_imp (List.mem_reverse.mp hc)
  · have hend : trim text ++ ((trimStart text).reverse.takeWhile isBlank).reverse =
        trimStart text := by
      rw [trim, trimEnd, ← List.reverse_append, List.takeWhile_append_dropWhile,
        List.reverse_reverse]
    rw [hend, trimStart, List.takeWhile_append_dropWhile]

/-- White space before a text is taken off. -/
theorem trimStart_append_of_blank {before : List Char} (h : ∀ c ∈ before, isBlank c = true)
    (text : List Char) : trimStart (before ++ text) = trimStart text :=
  List.dropWhile_append_of_pos h

/-- White space after a text is taken off. -/
theorem trimEnd_append_of_blank {after : List Char} (h : ∀ c ∈ after, isBlank c = true)
    (text : List Char) : trimEnd (text ++ after) = trimEnd text := by
  have hreverse : ∀ c ∈ after.reverse, isBlank c = true := fun c hc =>
    h c (List.mem_reverse.mp hc)
  rw [trimEnd, List.reverse_append, List.dropWhile_append_of_pos hreverse, ← trimEnd]

/-- Trimming does not see white space after a text. -/
theorem trim_append_of_blank {after : List Char} (h : ∀ c ∈ after, isBlank c = true)
    (text : List Char) : trim (text ++ after) = trim text := by
  rw [trim, trim, trimStart, trimStart, List.dropWhile_append]
  split
  · -- Only white space stands before, and it all goes from the start.
    rename_i hempty
    rw [List.isEmpty_iff.mp hempty, List.dropWhile_eq_nil_iff.mpr h]
  · exact trimEnd_append_of_blank h _

/-- It does not see white space before it. -/
theorem trim_blank_append {before : List Char} (h : ∀ c ∈ before, isBlank c = true)
    (text : List Char) : trim (before ++ text) = trim text := by
  rw [trim, trimStart_append_of_blank h, ← trim]

/-- A text without white space is left as it is. -/
theorem trim_of_forall {text : List Char} (h : ∀ c ∈ text, isBlank c = false) :
    trim text = text :=
  trim_eq_self (fun c hc => h c (List.mem_of_head? hc)) fun c hc => h c (List.mem_of_getLast? hc)

/-! ### The first and the last piece -/

/-- There is always a piece, if only an empty one. -/
theorem splitWhere_ne_nil (text : List α) : splitWhere isSeparator text ≠ [] := by
  cases text with
  | nil => simp [splitWhere]
  | cons x text =>
    rw [splitWhere_cons]
    split
    · simp
    · split <;> simp

/-- What stands before a text without a separator in it belongs to the first piece. -/
theorem exists_splitWhere_append_left {before : List α}
    (h : ∀ x ∈ before, isSeparator x = false) (text : List α) :
    ∃ first rest, splitWhere isSeparator text = first :: rest ∧
      splitWhere isSeparator (before ++ text) = (before ++ first) :: rest := by
  induction before with
  | nil =>
    cases hpieces : splitWhere isSeparator text with
    | nil => exact absurd hpieces (splitWhere_ne_nil text)
    | cons first rest => exact ⟨first, rest, rfl, hpieces⟩
  | cons x before ih =>
    obtain ⟨first, rest, htext, hall⟩ := ih fun y hy => h y (List.mem_cons_of_mem x hy)
    refine ⟨first, rest, htext, ?_⟩
    rw [List.cons_append, splitWhere_cons, if_neg (by simp [h x List.mem_cons_self]), hall]
    rfl

/-- What stands after a text without a separator in it belongs to the last piece. -/
theorem exists_splitWhere_append_right {after : List α}
    (h : ∀ x ∈ after, isSeparator x = false) (text : List α) :
    ∃ pieces last, splitWhere isSeparator text = pieces ++ [last] ∧
      splitWhere isSeparator (text ++ after) = pieces ++ [last ++ after] := by
  induction text with
  | nil => exact ⟨[], [], rfl, splitWhere_eq_singleton h⟩
  | cons x text ih =>
    obtain ⟨pieces, last, htext, hall⟩ := ih
    rw [List.cons_append, splitWhere_cons, splitWhere_cons, htext, hall]
    cases hx : isSeparator x with
    | true => exact ⟨[] :: pieces, last, rfl, rfl⟩
    | false =>
      cases pieces with
      | nil => exact ⟨[], x :: last, rfl, rfl⟩
      | cons first rest => exact ⟨(x :: first) :: rest, last, rfl, rfl⟩

/-- Trimmed fields are the same before and after the whole text is trimmed. -/
theorem map_trim_splitOn_trim {separator : Char} (hseparator : isBlank separator = false)
    (text : List Char) :
    (splitOn separator (trim text)).map trim = (splitOn separator text).map trim := by
  have hinside : ∀ blank : List Char, (∀ c ∈ blank, isBlank c = true) →
      ∀ c ∈ blank, (c == separator) = false := by
    intro blank hblank c hc
    refine beq_eq_false_iff_ne.mpr fun heq => ?_
    have hboth := hblank c hc
    rw [heq, hseparator] at hboth
    cases hboth
  obtain ⟨before, after, hbefore, hafter, htext⟩ := exists_eq_append_trim text
  obtain ⟨first, rest, hleft, hall⟩ :=
    exists_splitWhere_append_left (hinside before hbefore) (trim text ++ after)
  obtain ⟨pieces, last, htrim, hright⟩ :=
    exists_splitWhere_append_right (hinside after hafter) (trim text)
  -- Trimming takes the white space of both ends away again, from the pieces it belongs to.
  calc (splitOn separator (trim text)).map trim
      = (splitOn separator (trim text ++ after)).map trim := by
        rw [splitOn, splitOn, htrim, hright]
        simp [trim_append_of_blank hafter]
    _ = (splitOn separator text).map trim := by
        conv => rhs; rw [htext]
        rw [splitOn, splitOn, hleft, hall]
        simp [trim_blank_append hbefore]

/-! ### Fields that are joined -/

variable {separator : Char}

/-- A text without the separator is not cut anywhere. -/
theorem beq_separator_of_not_mem {text : List Char} (h : separator ∉ text) :
    ∀ c ∈ text, (c == separator) = false := by
  intro c hc
  refine beq_eq_false_iff_ne.mpr ?_
  rintro rfl
  exact h hc

/-- No piece has the separator. -/
theorem not_mem_of_mem_splitOn {text piece : List Char} (h : piece ∈ splitOn separator text) :
    separator ∉ piece := by
  intro hmem
  have hself := isSeparator_of_mem_splitWhere h hmem
  simp at hself

/-- An empty list of fields and a single empty field are the same text. -/
theorem splitOn_join {fields : List String} (hne : fields ≠ [])
    (h : ∀ field ∈ fields, separator ∉ field.toList) :
    splitOn separator (join separator.toString fields).toList = fields.map String.toList := by
  induction fields with
  | nil => exact absurd rfl hne
  | cons field rest ih =>
    have hfield := beq_separator_of_not_mem (h field List.mem_cons_self)
    unfold splitOn at ih ⊢
    cases rest with
    | nil => exact splitWhere_eq_singleton hfield
    | cons next rest =>
      -- The first field ends at the first separator, as it has none of its own.
      have htext : (join separator.toString (field :: next :: rest)).toList =
          field.toList ++ separator :: (join separator.toString (next :: rest)).toList := by
        simp [join]
      rw [htext, splitWhere_append_cons hfield (by simp),
        ih (List.cons_ne_nil _ _) fun f hf => h f (List.mem_cons_of_mem field hf)]
      rfl

/-- A text is cut at the first separator. -/
theorem cutAt?_append {name : List Char} (h : separator ∉ name) (value : List Char) :
    cutAt? separator (name ++ separator :: value) = some (name, value) := by
  have hname : ∀ c ∈ name, (c != separator) = true := fun c hc => by
    rw [bne, beq_separator_of_not_mem h c hc, Bool.not_false]
  rw [cutAt?, List.dropWhile_append_of_pos hname, List.takeWhile_append_of_pos hname]
  simp

end SeriesPlot.Text
