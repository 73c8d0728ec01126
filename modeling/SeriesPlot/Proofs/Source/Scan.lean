import SeriesPlot.Source.Scan

/-!
# `SeriesPlot.Proofs.Source.Scan`: what one pass over a file keeps

What is kept after some lines can be told from these lines alone (`Scan.describing`), without
a pass over them.

* `Scan.feed_describing`: the step lemma. Reading one more line leads from what is kept of the
  lines so far to what is kept of the lines with it.
* `Scan.ofBytes_eq`: so a file is read to what describes its lines, by induction on these.
* `Scan.tailSample_describing`: the sample seen last counts iff it is among the last lines, and
  then it is the last sample of these.

A pass keeps a sample together with the number of its line, since only the number tells whether it
is in the tail. `numberedSamples` are the samples of some lines with their numbers, and those
of later lines go on from those of the earlier ones (`numberedSamples_append`).
-/

set_option autoImplicit false

namespace SeriesPlot

open SeriesPlot.Text

/-- The samples of some lines with the numbers of these, the first line having the number `n`. -/
def numberedSamples (content : List (List UInt8)) (n : Nat) : List (List UInt8 × Nat) :=
  (content.zipIdx n).filter fun numbered => isSample numbered.1

/-- The numbers of later lines go on from those of the earlier ones. -/
theorem numberedSamples_append (before after : List (List UInt8)) (n : Nat) :
    numberedSamples (before ++ after) n =
      numberedSamples before n ++ numberedSamples after (n + before.length) := by
  unfold numberedSamples
  rw [List.zipIdx_append, List.filter_append]

/-- Without their numbers these are the samples. -/
theorem map_fst_numberedSamples (content : List (List UInt8)) (n : Nat) :
    (numberedSamples content n).map Prod.fst = content.filter isSample := by
  have hfilter := List.filter_map (f := Prod.fst) (p := isSample) (l := content.zipIdx n)
  rw [List.zipIdx_map_fst] at hfilter
  exact hfilter.symm

/-- A number is one of a line. -/
theorem number_bounds {content : List (List UInt8)} {n number : Nat} {line : List UInt8}
    (h : (numberedSamples content n).getLast? = some (line, number)) :
    n ≤ number ∧ number < n + content.length := by
  have hmem := (List.mem_filter.mp (List.mem_of_getLast? h)).1
  obtain ⟨hlow, hhigh, -⟩ := List.mem_zipIdx hmem
  exact ⟨hlow, by omega⟩

namespace Scan

/-- What is kept of some lines. -/
def describing (content : List (List UInt8)) : Scan where
  lineCount := content.length
  firstSample := (content.take scanDepth).find? isSample
  header := (content.take scanDepth).find? isHeader
  lastSample := (numberedSamples content 1).getLast?.map fun (line, number) => (number, line)

/-- One more line changes what is found in the head if the head has room for it and nothing
has been found before. -/
theorem find?_take_concat (p : List UInt8 → Bool) (content : List (List UInt8))
    (line : List UInt8) (depth : Nat) :
    ((content ++ [line]).take depth).find? p =
      if content.length + 1 ≤ depth ∧ ((content.take depth).find? p).isNone ∧ p line then
        some line
      else (content.take depth).find? p := by
  -- A line past the head is cut off again.
  by_cases hhead : content.length + 1 ≤ depth
  · have hall : content.take depth = content := List.take_of_length_le (by omega)
    have hmore : (content ++ [line]).take depth = content ++ [line] :=
      List.take_of_length_le (by simpa using hhead)
    rw [hall, hmore, List.find?_append]
    cases content.find? p <;> cases hline : p line <;> simp [hhead, hline]
  · rw [if_neg fun h => hhead h.1, List.take_append_of_le_length (by omega)]

/-- Reading a line keeps the description right. -/
theorem feed_describing (content : List (List UInt8)) (line : List UInt8) :
    (describing content).feed line = describing (content ++ [line]) := by
  have hnumbered : numberedSamples (content ++ [line]) 1 =
      numberedSamples content 1 ++ numberedSamples [line] (content.length + 1) := by
    rw [numberedSamples_append, Nat.add_comm]
  unfold feed describing
  rw [find?_take_concat, find?_take_concat, hnumbered, List.getLast?_append]
  dsimp only
  congr 1
  · rw [List.length_append, List.length_singleton]
  · cases hline : isSample line <;> simp [numberedSamples, hline]

/-- So reading some lines describes them after those before. -/
theorem foldl_feed_describing (before content : List (List UInt8)) :
    content.foldl feed (describing before) = describing (before ++ content) := by
  induction content generalizing before with
  | nil => rw [List.append_nil]; rfl
  | cons line rest ih =>
    rw [List.foldl_cons, feed_describing, ih, List.append_assoc]
    rfl

/-- What is kept of a file describes its lines. -/
theorem ofBytes_eq (bytes : List UInt8) :
    ofBytes bytes = describing ((lines bytes).map dropReturn) :=
  foldl_feed_describing [] _

/-- A sample seen last counts if it is in the tail, and not if it is in the lines before. -/
theorem tailSample_append {before tail : List (List UInt8)}
    (h : before.length = (before ++ tail).length - scanDepth) :
    (describing (before ++ tail)).tailSample = (tail.filter isSample).getLast? := by
  rw [← map_fst_numberedSamples tail (1 + before.length), List.getLast?_map]
  unfold tailSample describing
  dsimp only
  rw [numberedSamples_append, List.getLast?_append]
  match hinTail : (numberedSamples tail (1 + before.length)).getLast? with
  | some (line, number) =>
    obtain ⟨hnumber, -⟩ := number_bounds hinTail
    have hnear : (before ++ tail).length < number + scanDepth := by omega
    simp only [Option.some_or, Option.map_some, if_pos hnear]
  | none =>
    match hbefore : (numberedSamples before 1).getLast? with
    | some (line, number) =>
      -- There are lines before the tail, so the tail is as long as it can be.
      obtain ⟨hfirst, hnumber⟩ := number_bounds hbefore
      have hfar : ¬(before ++ tail).length < number + scanDepth := by omega
      simp only [Option.none_or, Option.map_some, Option.map_none, if_neg hfar]
    | none => rfl

/-- The sample seen last counts iff it is one of the last lines, and then it is the last
sample of these. -/
theorem tailSample_describing (content : List (List UInt8)) :
    (describing content).tailSample =
      ((content.drop (content.length - scanDepth)).filter isSample).getLast? := by
  have hsplit := List.take_append_drop (content.length - scanDepth) content
  have hlength : (content.take (content.length - scanDepth)).length =
      content.length - scanDepth := by
    rw [List.length_take]
    omega
  rw [← tailSample_append (by rw [hsplit, hlength]), hsplit]

end Scan

end SeriesPlot
