import SeriesPlot.Proofs.Text.Fields

/-!
# `SeriesPlot.Proofs.Text.Lines`: cutting bytes into lines

`HasLines` is how bytes are cut into lines from the first to the last: everything up to a line
feed is a line, and so is what is left at the end, unless nothing is. There is one way to cut,
and the lines of a file are what it gives (`hasLines_iff`).

`lines` cuts at all line feeds at once and takes an empty piece off the end. Its two equations,
`lines_of_not_mem` and `lines_append_cons`, say that this is the same. Whatever is to hold for all
bytes can be shown line by line (`induction_on_lines`).
-/

set_option autoImplicit false

namespace SeriesPlot.Text

/-- A line without a line feed is not cut anywhere. -/
theorem isLineFeed_eq_false {line : List UInt8} (h : lineFeed ∉ line) :
    ∀ b ∈ line, (b == lineFeed) = false := by
  intro b hb
  exact beq_eq_false_iff_ne.mpr fun heq => h (heq ▸ hb)

/-- Bytes without a line feed are what is left at the end. Others start with a line. -/
@[elab_as_elim]
theorem induction_on_lines {motive : List UInt8 → Prop}
    (last : ∀ line, lineFeed ∉ line → motive line)
    (more : ∀ line rest, lineFeed ∉ line → motive rest → motive (line ++ lineFeed :: rest))
    (bytes : List UInt8) : motive bytes := by
  -- Each line takes away its line feed at least, so the measure is the length.
  induction hlength : bytes.length using Nat.strongRecOn generalizing bytes with
  | ind length ih =>
    by_cases hfeed : lineFeed ∈ bytes
    · obtain ⟨line, rest, rfl, hline⟩ := List.eq_append_cons_of_mem hfeed
      refine more line rest hline (ih rest.length ?_ rest rfl)
      rw [← hlength, List.length_append, List.length_cons]
      omega
    · exact last bytes hfeed

/-- Cutting a file into lines. A line feed ends a line, and at the end of the file it begins
none. -/
inductive HasLines : List UInt8 → List (List UInt8) → Prop
  | done : HasLines [] []
  | last {line : List UInt8} : lineFeed ∉ line → line ≠ [] → HasLines line [line]
  | more {line rest : List UInt8} {later : List (List UInt8)} : lineFeed ∉ line →
      HasLines rest later → HasLines (line ++ lineFeed :: rest) (line :: later)

/-- Without a line feed the content is one line, or none if it is empty. -/
theorem lines_of_not_mem {line : List UInt8} (h : lineFeed ∉ line) :
    lines line = [line].filter (!·.isEmpty) := by
  unfold lines
  rw [splitWhere_eq_singleton (isLineFeed_eq_false h)]
  cases line <;> rfl

/-- A line feed ends the first line, and the rest is read in the same way. -/
theorem lines_append_cons {line : List UInt8} (h : lineFeed ∉ line) (rest : List UInt8) :
    lines (line ++ lineFeed :: rest) = line :: lines rest := by
  -- The last piece of all is also the last one of the rest.
  obtain ⟨pieces, last, hpieces⟩ :=
    (List.eq_nil_or_concat (splitWhere (· == lineFeed) rest)).resolve_left (splitWhere_ne_nil rest)
  unfold lines
  rw [splitWhere_append_cons (isLineFeed_eq_false h) (beq_self_eq_true lineFeed), hpieces,
    List.concat_eq_append, ← List.cons_append]
  dsimp only
  rw [List.dropLast_concat, List.dropLast_concat, List.getLast?_concat, List.getLast?_concat]
  split <;> rfl

/-- The lines of a file are what cutting gives. -/
theorem hasLines_iff {bytes : List UInt8} {found : List (List UInt8)} :
    HasLines bytes found ↔ found = lines bytes := by
  constructor
  · intro h
    induction h with
    | done => rfl
    | last hline hne => simp [lines_of_not_mem hline, hne]
    | more hline _ ih => rw [lines_append_cons hline, ih]
  · rintro rfl
    induction bytes using induction_on_lines with
    | last line hline =>
      rw [lines_of_not_mem hline]
      cases line with
      | nil => exact .done
      | cons b line => exact .last hline (List.cons_ne_nil _ _)
    -- A line with a line feed after it is cut off the front, whatever it holds.
    | more line rest hline ih =>
      rw [lines_append_cons hline]
      exact .more hline ih

end SeriesPlot.Text
