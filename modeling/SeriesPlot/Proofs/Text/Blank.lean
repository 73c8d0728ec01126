import SeriesPlot.Text.Blank

/-!
# `SeriesPlot.Proofs.Text.Blank`: trimmed texts

A text is trimmed iff neither its first nor its last character is white space (`trim_eq_self` is the
direction that is used). The end is trimmed after the start, and what that leaves is a prefix
(`trimEnd_prefix`), so it keeps the first character. Hence trimming twice is trimming once
(`trim_trim`), and trimming adds no character (`mem_of_mem_trim`).

White space includes characters outside of ASCII. Of those in ASCII none can be seen
(`isBlank_of_visible`).
-/

set_option autoImplicit false

namespace SeriesPlot.Text

/-- No character of ASCII that can be seen is white space. -/
theorem isBlank_of_visible {c : Char} (hlow : '!' ≤ c) (hhigh : c ≤ '~') : isBlank c = false := by
  have hlow : 33 ≤ c.toNat := hlow
  have hhigh : c.toNat ≤ 126 := hhigh
  simp [isBlank, blankRanges]
  omega

/-- The first character after trimming the start is not white space. -/
theorem isBlank_of_head?_trimStart {text : List Char} {c : Char}
    (h : (trimStart text).head? = some c) : isBlank c = false := by
  have hhead := List.head?_dropWhile_not isBlank text
  rw [← trimStart, h] at hhead
  exact hhead

/-- The last character after trimming the end is not white space. -/
theorem isBlank_of_getLast?_trimEnd {text : List Char} {c : Char}
    (h : (trimEnd text).getLast? = some c) : isBlank c = false := by
  rw [trimEnd, List.getLast?_reverse] at h
  exact isBlank_of_head?_trimStart h

/-- What is left without the white space at the end is the beginning of the text. -/
theorem trimEnd_prefix (text : List Char) : trimEnd text <+: text := by
  rw [trimEnd, ← List.reverse_suffix, List.reverse_reverse]
  exact List.dropWhile_suffix isBlank

/-- Trimming adds no character. -/
theorem mem_of_mem_trim {text : List Char} {c : Char} (h : c ∈ trim text) : c ∈ text := by
  have hprefix := trimEnd_prefix (trimStart text)
  have hstart : c ∈ trimStart text := hprefix.subset h
  exact (List.dropWhile_suffix isBlank).subset hstart

/-- Nothing is taken off a text that does not begin with white space. -/
theorem trimStart_eq_self {text : List Char}
    (h : ∀ c, text.head? = some c → isBlank c = false) : trimStart text = text := by
  cases text with
  | nil => rfl
  | cons c rest => exact List.dropWhile_cons_of_neg (by simp [h c rfl])

/-- Nothing is taken off a text that does not end with white space. -/
theorem trimEnd_eq_self {text : List Char}
    (h : ∀ c, text.getLast? = some c → isBlank c = false) : trimEnd text = text := by
  have hreverse : text.reverse.dropWhile isBlank = text.reverse :=
    trimStart_eq_self fun c hc => h c (by rwa [List.head?_reverse] at hc)
  rw [trimEnd, hreverse, List.reverse_reverse]

/-- A text with no white space at its ends is trimmed. -/
theorem trim_eq_self {text : List Char} (hfirst : ∀ c, text.head? = some c → isBlank c = false)
    (hlast : ∀ c, text.getLast? = some c → isBlank c = false) : trim text = text := by
  rw [trim, trimStart_eq_self hfirst, trimEnd_eq_self hlast]

/-- A trimmed text is left as it is. -/
@[simp] theorem trim_trim (text : List Char) : trim (trim text) = trim text := by
  refine trim_eq_self (fun c hc => ?_) fun c hc => isBlank_of_getLast?_trimEnd hc
  -- Trimming the end leaves a prefix, whose first character is the one of the whole.
  obtain ⟨rest, hrest⟩ := trimEnd_prefix (trimStart text)
  have hfirst : (trimStart text).head? = some c := by
    rw [← hrest, ← trim, List.head?_append, hc, Option.some_or]
  exact isBlank_of_head?_trimStart hfirst

end SeriesPlot.Text
