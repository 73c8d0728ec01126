/-!
# `SeriesPlot.Proofs.Support.Filter`: elements that count for nothing

Leaving out elements makes no difference to what a list is mapped to if nothing stands for
them: `flatMap_filter_of_eq_nil` for lists of things, and `filterMap_filter_of_eq_none` for one
thing at most. The words of a line that ask for nothing are left out in this way.
-/

set_option autoImplicit false

namespace SeriesPlot.Proofs.Support

variable {α β : Type} {p : α → Bool}

/-- What stands for nothing can be left out before a list is flattened. -/
theorem flatMap_filter_of_eq_nil {g : α → List β} (h : ∀ a, p a = false → g a = [])
    (l : List α) : (l.filter p).flatMap g = l.flatMap g := by
  induction l with
  | nil => rfl
  | cons a l ih =>
    cases ha : p a with
    | false =>
      rw [List.filter_cons_of_neg (by simp [ha]), List.flatMap_cons, h a ha, ih, List.nil_append]
    | true => rw [List.filter_cons_of_pos ha, List.flatMap_cons, List.flatMap_cons, ih]

/-- What stands for nothing can be left out before the rest is mapped. -/
theorem filterMap_filter_of_eq_none {f : α → Option β} (h : ∀ a, p a = false → f a = none)
    (l : List α) : (l.filter p).filterMap f = l.filterMap f := by
  induction l with
  | nil => rfl
  | cons a l ih =>
    cases ha : p a with
    | false =>
      rw [List.filter_cons_of_neg (by simp [ha]), List.filterMap_cons_none (h a ha), ih]
    | true => rw [List.filter_cons_of_pos ha, List.filterMap_cons, List.filterMap_cons, ih]

end SeriesPlot.Proofs.Support
