import SeriesPlot.Proofs.Text.Blank
import SeriesPlot.Text.Split

/-!
# `SeriesPlot.Proofs.Text.Words`: words with spaces between them

Words that are not empty and hold no white space can be joined with spaces and found again
(`words_join`). The joined text is trimmed (`trim_join`), as neither the first word starts
nor the last word ends with white space.

The lemmas before that are about cutting a text at every character of a class. The pieces and what
separates them make up the text (`flatten_splitWhere`, `mem_of_mem_splitWhere`,
`exists_mem_splitWhere`). A text without such a character is one piece
(`splitWhere_eq_singleton`), and otherwise the first piece ends at the first of them
(`splitWhere_append_cons`).
-/

set_option autoImplicit false

namespace SeriesPlot.Text

variable {α : Type} {isSeparator : α → Bool}

/-- The pieces of a text, from its first character on. -/
theorem splitWhere_cons (x : α) (text : List α) :
    splitWhere isSeparator (x :: text) =
      if isSeparator x then [] :: splitWhere isSeparator text
      else match splitWhere isSeparator text with
        | [] => [[x]]
        | piece :: rest => (x :: piece) :: rest := rfl

/-- A text that is one piece. -/
theorem splitWhere_eq_singleton {text : List α} (h : ∀ x ∈ text, isSeparator x = false) :
    splitWhere isSeparator text = [text] := by
  induction text with
  | nil => rfl
  | cons x text ih =>
    rw [splitWhere_cons, if_neg (by simp [h x List.mem_cons_self]),
      ih fun y hy => h y (List.mem_cons_of_mem x hy)]

/-- The first piece ends before the first separator. -/
theorem splitWhere_append_cons {piece rest : List α} {separator : α}
    (hpiece : ∀ x ∈ piece, isSeparator x = false) (hseparator : isSeparator separator = true) :
    splitWhere isSeparator (piece ++ separator :: rest) =
      piece :: splitWhere isSeparator rest := by
  induction piece with
  | nil => rw [List.nil_append, splitWhere_cons, if_pos hseparator]
  | cons x piece ih =>
    rw [List.cons_append, splitWhere_cons, if_neg (by simp [hpiece x List.mem_cons_self]),
      ih fun y hy => hpiece y (List.mem_cons_of_mem x hy)]

/-- Cutting a text takes the separators away and nothing else. -/
theorem flatten_splitWhere (text : List α) :
    (splitWhere isSeparator text).flatten = text.filter fun x => !isSeparator x := by
  induction text with
  | nil => rfl
  | cons x text ih =>
    rw [splitWhere_cons, List.filter_cons, ← ih]
    cases isSeparator x with
    | true => rfl
    | false =>
      -- The first piece goes on, unless there is none.
      cases splitWhere isSeparator text <;> rfl

/-- Pieces hold nothing but what is in the text. -/
theorem mem_of_mem_splitWhere {text piece : List α} {x : α}
    (hpiece : piece ∈ splitWhere isSeparator text) (hx : x ∈ piece) : x ∈ text := by
  have hall : x ∈ (splitWhere isSeparator text).flatten := List.mem_flatten_of_mem hpiece hx
  rw [flatten_splitWhere] at hall
  exact (List.mem_filter.mp hall).1

/-- No piece holds a separator. -/
theorem isSeparator_of_mem_splitWhere {text piece : List α} {x : α}
    (hpiece : piece ∈ splitWhere isSeparator text) (hx : x ∈ piece) : isSeparator x = false := by
  have hall : x ∈ (splitWhere isSeparator text).flatten := List.mem_flatten_of_mem hpiece hx
  rw [flatten_splitWhere] at hall
  simpa using (List.mem_filter.mp hall).2

/-- Everything else in the text is in some piece. -/
theorem exists_mem_splitWhere {text : List α} {x : α} (hx : x ∈ text)
    (h : isSeparator x = false) : ∃ piece ∈ splitWhere isSeparator text, x ∈ piece := by
  have hkept : x ∈ text.filter fun x => !isSeparator x :=
    List.mem_filter.mpr ⟨hx, by simp [h]⟩
  rw [← flatten_splitWhere] at hkept
  exact List.mem_flatten.mp hkept

/-- The characters of a word are in the text. -/
theorem mem_of_mem_words {text word : List Char} {c : Char} (hword : word ∈ words text)
    (hc : c ∈ word) : c ∈ text :=
  mem_of_mem_splitWhere (List.mem_filter.mp hword).1 hc

/-- So do the two parts of a text that is cut. -/
theorem mem_of_cutAt?_eq_some {text before after : List Char} {separator c : Char}
    (h : cutAt? separator text = some (before, after)) :
    (c ∈ before → c ∈ text) ∧ (c ∈ after → c ∈ text) := by
  unfold cutAt? at h
  split at h
  · cases h
  · rename_i hdrop
    cases h
    have htake := List.takeWhile_prefix (l := text) (· != separator)
    refine ⟨fun hc => htake.subset hc, fun hc => ?_⟩
    have hmem : c ∈ text.dropWhile (· != separator) := by
      rw [hdrop]
      exact List.mem_cons_of_mem _ hc
    exact (List.dropWhile_suffix _).subset hmem

/-- A text without white space is one word. -/
theorem words_of_forall {text : List Char} (hne : text ≠ [])
    (h : ∀ c ∈ text, isBlank c = false) : words text = [text] := by
  unfold words
  rw [splitWhere_eq_singleton h]
  simp [hne]

/-- A word is not empty and holds no white space. -/
def IsWord (word : String) : Prop :=
  word.toList ≠ [] ∧ ∀ c ∈ word.toList, isBlank c = false

-- Given in full, as an instance that tries all characters there are would fit as well.
instance (word : String) : Decidable (IsWord word) :=
  @instDecidableAnd _ _ inferInstance (List.decidableBAll (isBlank · = false) word.toList)

/-- A blank stands between the first word and the rest. -/
theorem toList_join_cons (word next : String) (rest : List String) :
    (join " " (word :: next :: rest)).toList =
      word.toList ++ ' ' :: (join " " (next :: rest)).toList := by
  simp [join]

/-- The space between words is white space. -/
theorem isBlank_space : isBlank ' ' = true := by decide

/-- Joined words can be told apart again. -/
theorem words_join {ws : List String} (h : ∀ word ∈ ws, IsWord word) :
    words (join " " ws).toList = ws.map String.toList := by
  induction ws with
  | nil => rfl
  | cons word rest ih =>
    obtain ⟨hne, hblank⟩ := h word List.mem_cons_self
    have hkept : (!word.toList.isEmpty) = true := by simpa using hne
    unfold words at ih ⊢
    -- A word has no white space, so it ends at the first space after it.
    cases rest with
    | nil =>
      show (splitWhere isBlank word.toList).filter _ = _
      rw [splitWhere_eq_singleton hblank, List.filter_cons, if_pos hkept]
      rfl
    | cons next rest =>
      rw [toList_join_cons, splitWhere_append_cons hblank isBlank_space,
        List.filter_cons, if_pos hkept, ih fun w hw => h w (List.mem_cons_of_mem word hw)]
      rfl

/-- Joined words are not nothing. -/
theorem toList_join_ne_nil {ws : List String} (hne : ws ≠ []) (h : ∀ word ∈ ws, IsWord word) :
    (join " " ws).toList ≠ [] := by
  intro hempty
  have hwords := words_join h
  rw [hempty] at hwords
  exact hne (List.map_eq_nil_iff.mp hwords.symm)

/-- They begin as the first of them does. -/
theorem head?_join {word : String} {rest : List String} (h : IsWord word) :
    (join " " (word :: rest)).toList.head? = word.toList.head? := by
  cases rest with
  | nil => rfl
  | cons next rest =>
    obtain ⟨c, text, htext⟩ := List.exists_cons_of_ne_nil h.1
    rw [toList_join_cons, htext]
    rfl

/-- They end as the last of them does. -/
theorem exists_getLast?_join {ws : List String} (hne : ws ≠ []) (h : ∀ word ∈ ws, IsWord word) :
    ∃ word ∈ ws, (join " " ws).toList.getLast? = word.toList.getLast? := by
  induction ws with
  | nil => exact absurd rfl hne
  | cons word rest ih =>
    cases rest with
    | nil => exact ⟨word, List.mem_cons_self, rfl⟩
    | cons next rest =>
      obtain ⟨last, hmem, hlast⟩ :=
        ih (List.cons_ne_nil _ _) fun w hw => h w (List.mem_cons_of_mem word hw)
      refine ⟨last, List.mem_cons_of_mem word hmem, ?_⟩
      -- What is joined after the space is not empty, so it holds the last character.
      obtain ⟨c, hc⟩ : ∃ c, last.toList.getLast? = some c :=
        Option.isSome_iff_exists.mp (by simpa using (h last (List.mem_cons_of_mem word hmem)).1)
      rw [toList_join_cons, List.getLast?_append, List.getLast?_cons, hlast, hc]
      rfl

/-- There is no white space around joined words. -/
theorem trim_join {ws : List String} (h : ∀ word ∈ ws, IsWord word) :
    trim (join " " ws).toList = (join " " ws).toList := by
  cases ws with
  | nil => rfl
  | cons word rest =>
    refine trim_eq_self (fun c hc => ?_) fun c hc => ?_
    · rw [head?_join (h word List.mem_cons_self)] at hc
      exact (h word List.mem_cons_self).2 c (List.mem_of_head? hc)
    · obtain ⟨last, hmem, hlast⟩ := exists_getLast?_join (List.cons_ne_nil word rest) h
      rw [hlast] at hc
      exact (h last hmem).2 c (List.mem_of_getLast? hc)

end SeriesPlot.Text
