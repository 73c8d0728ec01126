import SeriesPlot.Source

/-!
# `SeriesPlot.Proofs.Source.LastColumn`: the numbers of columns

Column numbers are words of 16 bits, and a source counts its columns in them. The theorems say
how far the count can be trusted.

* `Source.lastColumn_of_lt`: below the limit the last column is the one that its names end at,
  so the value columns are numbered from 2 on without a gap (`Source.columns_of_lt`).
* `Source.lastColumn_le_columnLimit`: the last column is a column number for any source.
* `Source.lastColumn_lt_firstValueColumn_iff`: there is one number of names, the limit itself,
  with which a source that has names has no value column. The sum of the time column and the
  names is one more than the limit then, and what is stored of it is 0. With more names than
  that the count is cut down first, and the sum fits.

The last one is what a step through the columns founders on. It is proved by comparing the number
of names with the limit: below it the sum is what it says, at the limit it is 0, and above it the
sum is the same for all numbers of names.
-/

set_option autoImplicit false

namespace SeriesPlot

/-- Whatever is stored as a column number is within the limit. -/
theorem wrapColumn_le_columnLimit (n : Nat) : wrapColumn n ≤ columnLimit :=
  Nat.le_of_lt_succ (Nat.mod_lt n (Nat.succ_pos columnLimit))

/-- A number within the limit is stored as it is. -/
theorem wrapColumn_eq_self {n : Nat} (h : n ≤ columnLimit) : wrapColumn n = n :=
  Nat.mod_eq_of_lt (Nat.lt_succ_of_le h)

namespace Source

variable {s : Source}

/-- The last column is stored as a column number. -/
theorem lastColumn_le_columnLimit (s : Source) : s.lastColumn ≤ columnLimit :=
  wrapColumn_le_columnLimit _

/-- Below the limit the names are counted one by one, and the count fits. -/
theorem lastColumn_of_lt (h : s.names.length < columnLimit) :
    s.lastColumn = timeColumn + s.names.length := by
  have hsum : timeColumn + s.names.length ≤ columnLimit := by
    rw [Nat.add_comm]
    exact h
  unfold lastColumn
  rw [if_pos (Nat.le_of_lt h)]
  exact wrapColumn_eq_self hsum

/-- A source with names has no value column iff there are as many names as the highest column
number says. -/
theorem lastColumn_lt_firstValueColumn_iff (hnames : s.names ≠ []) :
    s.lastColumn < firstValueColumn ↔ s.names.length = columnLimit := by
  have hpos : 0 < s.names.length := List.length_pos_iff.mpr hnames
  rcases Nat.lt_trichotomy s.names.length columnLimit with hless | hequal | hmore
  · rw [lastColumn_of_lt hless, firstValueColumn]
    omega
  · -- The sum is one more than the limit, of which nothing is left.
    refine iff_of_true ?_ hequal
    unfold lastColumn
    rw [hequal, if_pos (Nat.le_refl _)]
    decide
  · refine iff_of_false ?_ (Nat.ne_of_gt hmore)
    unfold lastColumn
    rw [if_neg (Nat.not_le_of_lt hmore)]
    decide

/-- The value columns are those from the first one to the last one. -/
theorem mem_columns_iff {column : Nat} :
    column ∈ s.columns ↔ firstValueColumn ≤ column ∧ column ≤ s.lastColumn := by
  rw [columns, List.mem_range'_1]
  omega

/-- Below the limit there is a value column for each name. -/
theorem columns_of_lt (h : s.names.length < columnLimit) :
    s.columns = List.range' firstValueColumn s.names.length := by
  rw [columns, lastColumn_of_lt h, firstValueColumn]
  congr 1
  omega

end Source

end SeriesPlot
