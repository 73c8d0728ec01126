import SeriesPlot.Calendar.Span
import SeriesPlot.Proofs.Binary64.Sign
import SeriesPlot.Proofs.Calendar.Instant

/-!
# `SeriesPlot.Proofs.Calendar.Offset`: moving an instant

An edge is moved by a length of time in seconds, which is rounded to milliseconds first.

* `Instant.offset?_eq_some_iff`: the result is the instant so many whole milliseconds later, if
  it is representable, and there is none otherwise.
* `wholeMillis?_neg`: the opposite length is rounded to the opposite number, and it is too large
  iff the length is. So a move and its opposite are both rounded in the same way.
* `wholeMillis?_of_round?`: a rounded number below the limit is the number of milliseconds.
-/

set_option autoImplicit false

namespace SeriesPlot

/-- The opposite length of time is rounded to the opposite number of milliseconds. -/
theorem wholeMillis?_neg (seconds : Binary64) :
    wholeMillis? (-seconds) = (wholeMillis? seconds).map fun n => -n := by
  unfold wholeMillis?
  rw [Binary64.neg_mul, Binary64.round?_neg]
  generalize (seconds * 1000).round? = rounded
  cases rounded with
  | none => rfl
  | some n =>
    show (if (-n).natAbs < millisLimit then some (-n) else none) =
      Option.map (fun n => -n) (if n.natAbs < millisLimit then some n else none)
    rw [Int.natAbs_neg]
    split <;> rfl

/-- A rounded number below the limit is the number of milliseconds. -/
theorem wholeMillis?_of_round? {seconds : Binary64} {n : Nat}
    (h : (seconds * 1000).round? = some (n : Int)) (hlimit : n < millisLimit) :
    wholeMillis? seconds = some (n : Int) := by
  unfold wholeMillis?
  rw [h]
  show (if (n : Int).natAbs < millisLimit then some (n : Int) else none) = some (n : Int)
  rw [if_pos (by rwa [Int.natAbs_natCast])]

namespace Instant

variable {t u : Instant}

/-- The instant some milliseconds later is the one with the sum, if that is representable. -/
theorem add?_eq_some_iff {n : Int} : t.add? n = some u ↔ u.millis = t.millis + n := by
  unfold add? ofMillis?
  constructor
  · intro h
    split at h
    · cases h
      rfl
    · cases h
  · intro h
    rw [dif_pos ⟨h ▸ u.earliest_le, h ▸ u.le_latest⟩]
    exact congrArg some (eq_of_millis_eq h.symm)

/-- A move by a length of time is a move by its whole milliseconds. -/
theorem offset?_eq_some_iff {seconds : Binary64} :
    t.offset? seconds = some u ↔
      ∃ n, wholeMillis? seconds = some n ∧ u.millis = t.millis + n := by
  unfold offset?
  simp only [Option.bind_eq_bind, Option.bind_eq_some_iff, add?_eq_some_iff]

end Instant

end SeriesPlot
