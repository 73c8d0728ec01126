import SeriesPlot.Proofs.Source.Header
import SeriesPlot.Proofs.Text.Lines

/-!
# `SeriesPlot.Proofs.Source.Content`: what the lines of a file say about it

A file is a source iff there is a sample in its head and one in its tail and the times of its
first and of its last sample can be read (`Source.ofBytes_characterised`). The statement is about
the lines of the file and mentions no pass over them.

* `find?_take_eq`, `getLast?_filter_drop_eq`: the pass finds the first sample of the head and the
  last one of the tail, and these are the first and the last of all, also where a short file has
  the same lines in its head and in its tail.
* `sampleTime_eq`: the time of a sample is read from the first field of its line.
* `Source.ofBytes_eq_noSamples`, `Source.ofBytes_eq_of_hasSample`: the two outcomes. Without a
  sample in the head or in the tail there is no source, whatever the times are, so that error comes
  before the one of a time that cannot be read.

What one pass keeps of the lines is in `Proofs/Source/Scan.lean`.
-/

set_option autoImplicit false

namespace SeriesPlot

open SeriesPlot.Text

/-! ### Lines with the word for a header -/

/-- A text is found in another one iff it is an infix of it. -/
theorem containsText_iff {part text : List Char} :
    containsText part text = true ↔ part <:+: text := by
  induction text with
  | nil => rw [containsText, List.isEmpty_iff, List.infix_nil]
  | cons c text ih =>
    rw [containsText, Bool.or_eq_true, ih, List.isPrefixOf_iff_prefix, List.infix_cons_iff]

/-- The word for a header occurs in a line, in any letter case. -/
def NamesFields (line : List UInt8) : Prop :=
  "fields".toList <:+: (Utf8.decodeLossy line).map Char.toLower

/-- The test for a header is whether the line names its fields. -/
theorem isHeader_iff {line : List UInt8} : isHeader line = true ↔ NamesFields line :=
  containsText_iff

instance (line : List UInt8) : Decidable (NamesFields line) := decidable_of_iff _ isHeader_iff

/-- The test as a function, for lists of lines. -/
theorem isHeader_eq : isHeader = fun line => decide (NamesFields line) := by
  funext line
  rw [Bool.eq_iff_iff, isHeader_iff, decide_eq_true_iff]

/-! ### The time of a sample -/

/-- The first comma-separated field of a line. -/
def firstField (line : List UInt8) : String :=
  String.ofList ((splitOn ',' (Utf8.decodeLossy line)).headD [])

/-- The first piece of a text ends before the first separator. -/
theorem headD_splitWhere {α : Type} (isSeparator : α → Bool) (text : List α) :
    (splitWhere isSeparator text).headD [] = text.takeWhile (!isSeparator ·) := by
  induction text with
  | nil => rfl
  | cons x text ih =>
    rw [splitWhere_cons, List.takeWhile_cons]
    -- A separator ends the first piece, and any other character is the first one of it.
    cases hx : isSeparator x with
    | true => rfl
    | false =>
      cases hpieces : splitWhere isSeparator text with
      | nil => exact absurd hpieces (splitWhere_ne_nil text)
      | cons piece rest =>
        rw [hpieces] at ih
        exact congrArg (x :: ·) ih

/-- The time of a sample is read from the first field of its line. -/
theorem sampleTime_eq (line : List UInt8) :
    sampleTime line = TimeLiteral.read (firstField line) := by
  unfold sampleTime firstField splitOn
  rw [headD_splitWhere]
  rfl

/-! ### The first and the last sample -/

section

variable {α : Type} {p : α → Bool} {l : List α}

/-- If there is a match among the first elements, the first of them is the first of all. -/
theorem find?_take_eq {n : Nat} (h : ∃ x ∈ l.take n, p x = true) :
    (l.take n).find? p = (l.filter p).head? := by
  obtain ⟨first, hfirst⟩ := Option.isSome_iff_exists.mp (List.find?_isSome.mpr h)
  have hall := congrArg (List.find? p) (List.take_append_drop n l)
  rw [List.find?_append, hfirst, Option.some_or] at hall
  rw [List.head?_filter, hfirst, hall]

/-- If there is a match among the last elements, the last of them is the last of all. -/
theorem getLast?_filter_drop_eq {n : Nat} (h : ∃ x ∈ l.drop n, p x = true) :
    ((l.drop n).filter p).getLast? = (l.filter p).getLast? := by
  obtain ⟨x, hx, hp⟩ := h
  have hne : (l.drop n).filter p ≠ [] := List.ne_nil_of_mem (List.mem_filter.mpr ⟨hx, hp⟩)
  have hall := congrArg (List.filter p) (List.take_append_drop n l)
  rw [List.filter_append] at hall
  rw [← hall, List.getLast?_append, List.getLast?_eq_some_getLast hne, Option.some_or]

end

/-! ### The source of a file -/

/-- There is a sample among some lines. -/
def HasSample (content : List (List UInt8)) : Prop := ∃ line ∈ content, isSample line = true

instance (content : List (List UInt8)) : Decidable (HasSample content) :=
  inferInstanceAs (Decidable (∃ _ ∈ content, _))

/-- The first lines of a file. -/
def headLines (content : List (List UInt8)) : List (List UInt8) := content.take scanDepth

/-- The last lines of a file, which are also the first ones of a short file. -/
def tailLines (content : List (List UInt8)) : List (List UInt8) :=
  content.drop (content.length - scanDepth)

namespace Source

variable {bytes : List UInt8}

section

variable (letter : Char) (label : String) {content : List (List UInt8)}
  (hcontent : content = (lines bytes).map dropReturn)
include hcontent

/-- Without a sample in the head or in the tail there is no source, whatever the times are. -/
theorem ofBytes_eq_noSamples
    (h : ¬(HasSample (headLines content) ∧ HasSample (tailLines content))) :
    ofBytes letter label bytes = .error (.noSamples label) := by
  unfold ofBytes
  dsimp only
  rw [Scan.ofBytes_eq, Scan.tailSample_describing, ← hcontent]
  split
  · -- What is found is a sample.
    rename_i first last hfirst hlast
    have hmem := List.mem_filter.mp (List.mem_of_getLast? hlast)
    exact absurd ⟨⟨first, List.mem_of_find?_eq_some hfirst, List.find?_some hfirst⟩,
      last, hmem.1, hmem.2⟩ h
  · rfl

/-- With both, the first and the last sample of the file are read. -/
theorem ofBytes_eq_of_hasSample (hhead : HasSample (headLines content))
    (htail : HasSample (tailLines content)) :
    ∃ first last, (content.filter isSample).head? = some first ∧
      (content.filter isSample).getLast? = some last ∧
      ofBytes letter label bytes =
        match sampleTime first, sampleTime last with
        | .error e, _ => .error (.badTime label e)
        | .ok _, .error e => .error (.badTime label e)
        | .ok start, .ok stop =>
          .ok ⟨letter, start, stop, ((headerLine? bytes).map columnNames).getD [], label⟩ := by
  -- The first sample of the head is the first of all, and the last one of the tail the last.
  obtain ⟨first, hfirst⟩ := Option.isSome_iff_exists.mp (List.find?_isSome.mpr hhead)
  have hfirst' := hfirst
  rw [headLines, find?_take_eq hhead] at hfirst'
  obtain ⟨last, hlast⟩ : ∃ last, (content.filter isSample).getLast? = some last := by
    rw [← Option.isSome_iff_exists, List.getLast?_isSome]
    intro hnone
    rw [hnone] at hfirst'
    cases hfirst'
  have hlast' := hlast
  rw [← getLast?_filter_drop_eq htail] at hlast'
  refine ⟨first, last, hfirst', hlast, ?_⟩
  have hscan : (Scan.ofBytes bytes).firstSample = some first ∧
      (Scan.ofBytes bytes).tailSample = some last := by
    rw [Scan.ofBytes_eq, ← hcontent, Scan.tailSample_describing]
    exact ⟨hfirst, hlast'⟩
  unfold ofBytes
  dsimp only
  rw [hscan.1, hscan.2, Scan.header_ofBytes]
  dsimp only
  cases sampleTime first with
  | error e => rfl
  | ok start => cases sampleTime last <;> rfl

end

/-- What becomes of a file follows from its lines. It is a source iff a line among the first
ones and one among the last ones start with a digit, and the first comma-separated fields of
the first and of the last such line are times. These are its start and its stop, and its names
are the fields after the first one of the first line among the first ones that has the word for
a header. Without such lines in the head or in the tail the error is that, and otherwise it is
that of the start, or that of the stop if the start is a time. -/
theorem ofBytes_characterised {fileLines : List (List UInt8)} (hlines : HasLines bytes fileLines)
    (letter : Char) (label : String) :
    let content := fileLines.map dropReturn
    let samples := content.filter isSample
    let header? := (headLines content).find? fun line => decide (NamesFields line)
    let Sampled := HasSample (headLines content) ∧ HasSample (tailLines content)
    (∀ s, ofBytes letter label bytes = .ok s ↔
      Sampled ∧ ∃ first last, samples.head? = some first ∧ samples.getLast? = some last ∧
        TimeLiteral.read (firstField first) = .ok s.start ∧
        TimeLiteral.read (firstField last) = .ok s.stop ∧
        s.names = ((header?.map headerFields).getD []).drop 1 ∧
        s.letter = letter ∧ s.label = label) ∧
    (ofBytes letter label bytes = .error (.noSamples label) ↔ ¬Sampled) ∧
    ∀ e, ofBytes letter label bytes = .error (.badTime label e) ↔
      Sampled ∧ ∃ first last, samples.head? = some first ∧ samples.getLast? = some last ∧
        (TimeLiteral.read (firstField first) = .error e ∨
          (∃ start, TimeLiteral.read (firstField first) = .ok start) ∧
            TimeLiteral.read (firstField last) = .error e) := by
  intro content samples header? Sampled
  have hcontent : content = (lines bytes).map dropReturn := by
    rw [← hasLines_iff.mp hlines]
  have hheader : headerLine? bytes = header? := by
    show _ = (headLines content).find? _
    rw [headerLine?, ← hcontent, isHeader_eq, headLines]
  by_cases hsampled : Sampled
  · obtain ⟨first, last, hfirst, hlast, hresult⟩ :=
      ofBytes_eq_of_hasSample letter label hcontent hsampled.1 hsampled.2
    rw [sampleTime_eq, sampleTime_eq, getD_map_columnNames, hheader] at hresult
    -- There is only one first sample and only one last sample that the times could be of.
    have hsame {first' last' : List UInt8} (hfirst' : samples.head? = some first')
        (hlast' : samples.getLast? = some last') : first = first' ∧ last = last' :=
      ⟨Option.some.inj (hfirst.symm.trans hfirst'), Option.some.inj (hlast.symm.trans hlast')⟩
    rw [hresult]
    refine ⟨fun s => ⟨fun h => ?_, ?_⟩, ?_, fun e => ⟨fun h => ?_, ?_⟩⟩
    · refine ⟨hsampled, first, last, hfirst, hlast, ?_⟩
      split at h <;> cases h
      exact ⟨‹_›, ‹_›, rfl, rfl, rfl⟩
    · rintro ⟨-, first', last', hfirst', hlast', hstart, hstop, hnames', rfl, rfl⟩
      obtain ⟨rfl, rfl⟩ := hsame hfirst' hlast'
      rw [hstart, hstop, ← hnames']
    · split <;> simp [hsampled]
    · refine ⟨hsampled, first, last, hfirst, hlast, ?_⟩
      split at h <;> cases h
      · exact .inl ‹_›
      · exact .inr ⟨⟨_, ‹_›⟩, ‹_›⟩
    · rintro ⟨-, first', last', hfirst', hlast', htimes⟩
      obtain ⟨rfl, rfl⟩ := hsame hfirst' hlast'
      rcases htimes with hstart | ⟨⟨start, hstart⟩, hstop⟩
      · rw [hstart]
      · rw [hstart, hstop]
  · have hresult : ofBytes letter label bytes = .error (.noSamples label) :=
      ofBytes_eq_noSamples letter label hcontent hsampled
    simp [hresult, hsampled]

/-- The last sample is the first of the last lines, and one line more leaves it behind. -/
theorem ofBytes_characterised_at_depth :
    let file (blankLines : Nat) : List UInt8 :=
      ("# Fields, temp\r\n2013-06-01,1\r\n2013-06-02,2\r\n".toList).map Char.toUInt8
        ++ List.replicate blankLines lineFeed
    HasLines (file 99) (lines (file 99)) ∧ HasLines (file 100) (lines (file 100)) ∧
      ofBytes 'a' "met.csv" (file 99) =
        .ok ⟨'a', ⟨1370044800000, by decide, by decide⟩, ⟨1370131200000, by decide, by decide⟩,
          ["temp"], "met.csv"⟩ ∧
      ofBytes 'a' "met.csv" (file 100) = .error (.noSamples "met.csv") := by
  intro file
  have hlines : HasLines (file 99) (lines (file 99)) := hasLines_iff.mpr rfl
  have hmore : HasLines (file 100) (lines (file 100)) := hasLines_iff.mpr rfl
  obtain ⟨hsource, -⟩ := ofBytes_characterised hlines 'a' "met.csv"
  obtain ⟨-, hnone, -⟩ := ofBytes_characterised hmore 'a' "met.csv"
  refine ⟨hlines, hmore, (hsource _).mpr ⟨by decide +kernel, ?_⟩, hnone.mpr (by decide +kernel)⟩
  -- Of 101 lines at most the last 100 are searched for the last sample.
  exact ⟨"2013-06-01,1".toList.map Char.toUInt8, "2013-06-02,2".toList.map Char.toUInt8,
    by decide +kernel, by decide +kernel, by decide +kernel, by decide +kernel,
    by decide +kernel, rfl, rfl⟩

end Source

end SeriesPlot
