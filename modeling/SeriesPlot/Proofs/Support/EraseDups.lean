import SeriesPlot.Proofs.Support.Filter

/-!
# `SeriesPlot.Proofs.Support.EraseDups`: lists without repetition

Core has the equations of `List.eraseDupsBy` and, for a lawful `==`, membership in
`List.eraseDups`. Selections and series also need that nothing new comes in and
that nothing is left twice, for a comparison that need not be lawful.

* `mem_of_mem_eraseDupsBy`, `exists_mem_eraseDupsBy`: what is left is in the list, and every
  element is left or repeats one that is.
* `pairwise_eraseDupsBy`, `eraseDupsBy_eq_self`: no later element repeats an earlier one, and a list
  in which that is so stays as it is.
* `eraseDupsBy_flatMap_eraseDups`: where repetitions are erased in two stages, erasing at the end is
  enough.

Erasing goes on with a filtered tail, so the recursions here are on the length of the list.
-/

set_option autoImplicit false

namespace SeriesPlot.Proofs.Support

variable {α β : Type}

/-- Erasing leaves only elements of the list. The recursion is on a filtered tail,
so the measure is the length. -/
theorem mem_of_mem_eraseDupsBy {r : α → α → Bool} {x : α} :
    ∀ {l : List α}, x ∈ l.eraseDupsBy r → x ∈ l
  | [], h => by simp at h
  | a :: l, h => by
    rw [List.eraseDupsBy_cons, List.mem_cons] at h
    rcases h with rfl | h
    · exact List.mem_cons_self
    · exact List.mem_cons_of_mem a (List.mem_filter.mp (mem_of_mem_eraseDupsBy h)).1
termination_by l => l.length
decreasing_by exact Nat.lt_succ_of_le (List.length_filter_le _ l)

/-- Erasing leaves of every element the element itself or one that it repeats. -/
theorem exists_mem_eraseDupsBy {r : α → α → Bool} {x : α} :
    ∀ {l : List α}, x ∈ l → ∃ y ∈ l.eraseDupsBy r, y = x ∨ r x y = true
  | [], h => by simp at h
  | a :: l, h => by
    rw [List.eraseDupsBy_cons]
    rcases List.mem_cons.mp h with rfl | h
    · exact ⟨x, List.mem_cons_self, .inl rfl⟩
    · cases hxa : r x a with
      | true => exact ⟨a, List.mem_cons_self, .inr hxa⟩
      | false =>
        have hrest : x ∈ l.filter fun b => r b a = false :=
          List.mem_filter.mpr ⟨h, decide_eq_true hxa⟩
        obtain ⟨y, hy, hxy⟩ := exists_mem_eraseDupsBy hrest
        exact ⟨y, List.mem_cons_of_mem a hy, hxy⟩
termination_by l => l.length
decreasing_by exact Nat.lt_succ_of_le (List.length_filter_le _ l)

/-- Erasing leaves nothing only of the empty list. -/
@[simp] theorem eraseDupsBy_eq_nil_iff {r : α → α → Bool} {l : List α} :
    l.eraseDupsBy r = [] ↔ l = [] := by
  cases l with
  | nil => simp
  | cons a l => simp [List.eraseDupsBy_cons]

/-- Erasing leaves no two elements of which the later one repeats the earlier one. -/
theorem pairwise_eraseDupsBy {r : α → α → Bool} :
    ∀ l : List α, (l.eraseDupsBy r).Pairwise fun a b => r b a = false
  | [] => by simp
  | a :: l => by
    rw [List.eraseDupsBy_cons, List.pairwise_cons]
    refine ⟨fun b hb => ?_, pairwise_eraseDupsBy _⟩
    simpa using (List.mem_filter.mp (mem_of_mem_eraseDupsBy hb)).2
termination_by l => l.length
decreasing_by exact Nat.lt_succ_of_le (List.length_filter_le _ l)

/-- Nothing is erased from a list without repetition. -/
theorem eraseDupsBy_eq_self {r : α → α → Bool} :
    ∀ {l : List α}, (l.Pairwise fun a b => r b a = false) → l.eraseDupsBy r = l
  | [], _ => by simp
  | a :: l, h => by
    obtain ⟨hfirst, hrest⟩ := List.pairwise_cons.mp h
    have hkept : l.filter (fun b => r b a = false) = l :=
      List.filter_eq_self.mpr fun b hb => decide_eq_true (hfirst b hb)
    rw [List.eraseDupsBy_cons, hkept, eraseDupsBy_eq_self hrest]

/-- A list without repetition is left as it is. -/
theorem eraseDups_eq_self [BEq α] [LawfulBEq α] {l : List α} (h : l.Nodup) : l.eraseDups = l :=
  eraseDupsBy_eq_self (h.imp fun hne => by simpa using Ne.symm hne)

/-- What is left has no repetition. -/
theorem nodup_eraseDups [BEq α] [LawfulBEq α] (l : List α) : l.eraseDups.Nodup := by
  refine (pairwise_eraseDupsBy l).imp fun {a b} h hab => ?_
  subst hab
  simp at h

/-- Erasing in two lists together leaves what erasing in the first leaves, and then, of the
second, only what repeats none of it. -/
theorem eraseDupsBy_append {r : α → α → Bool} :
    ∀ l m : List α, (l ++ m).eraseDupsBy r =
      l.eraseDupsBy r ++ (m.filter fun b => (l.eraseDupsBy r).all fun a => !r b a).eraseDupsBy r
  | [], m => by
    have hm : m.filter (fun _ => true) = m := List.filter_eq_self.mpr fun _ _ => rfl
    simp [hm]
  | a :: l, m => by
    rw [List.cons_append, List.eraseDupsBy_cons, List.filter_append, eraseDupsBy_append,
      List.filter_filter, ← List.cons_append, ← List.eraseDupsBy_cons]
    congr 3
    funext b
    rw [List.eraseDupsBy_cons, List.all_cons]
    simp [Bool.and_comm]
termination_by l => l.length
decreasing_by exact Nat.lt_succ_of_le (List.length_filter_le _ l)

/-- What stands for an element that is repeated is what stood for it before. So it makes no
difference whether repetitions are erased before the elements are replaced as well. -/
theorem eraseDupsBy_flatMap_eraseDups [BEq α] [LawfulBEq α] {r : β → β → Bool}
    (hr : ∀ b, r b b = true) :
    ∀ (l : List α) (g : α → List β),
      (l.eraseDups.flatMap g).eraseDupsBy r = (l.flatMap g).eraseDupsBy r
  | [], g => by simp
  | a :: l, g => by
    rw [List.eraseDups_cons, List.flatMap_cons, List.flatMap_cons, eraseDupsBy_append,
      eraseDupsBy_append, List.filter_flatMap, List.filter_flatMap,
      eraseDupsBy_flatMap_eraseDups hr, flatMap_filter_of_eq_nil]
    -- Of what stands for `a` a second time, each element repeats one that is kept.
    intro b hb
    obtain rfl : b = a := by simpa using hb
    rw [List.filter_eq_nil_iff]
    intro x hx
    obtain ⟨y, hy, hxy⟩ := exists_mem_eraseDupsBy hx
    have hrepeats : r x y = true := by
      rcases hxy with rfl | hxy
      · exact hr y
      · exact hxy
    simpa using ⟨y, hy, hrepeats⟩
termination_by l => l.length
decreasing_by exact Nat.lt_succ_of_le (List.length_filter_le _ l)

end SeriesPlot.Proofs.Support
