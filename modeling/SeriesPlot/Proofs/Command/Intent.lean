import SeriesPlot.Command

/-!
# `SeriesPlot.Proofs.Command.Intent`: where the payload of a word comes from

`Intent.ofWord` tries the kinds of words one after the other. `Intent.Reading` says for each kind
of intent which reader its payload is from, and `Intent.reading_ofWord` that every word is read
so. What a reader never yields, no word asks for. Later modules go by the constructors of
`Intent.Reading` and never open `Intent.ofWord` again.

The lemmas on time tokens do the same one level further down: the only words that are read as
relative changes are those with the mark of one (`TimeToken.shift?_of_parse?_eq_shift`), the whole
word is read (`TimeToken.shiftParse?_of_parse?`), and reading never marks a change for the stop of
its line (`TimeToken.stopAnchored_of_parse?`).
-/

set_option autoImplicit false

namespace SeriesPlot

namespace Intent

/-- An intent whose payload is what the readers make of a word. -/
inductive Reading (word : List Char) : Intent → Prop
  | info : Reading word .info
  | yRange {lowText highText : List Char} {low high : Option Binary64}
      (parts : yParts? word.tail = some (lowText, highText))
      (lowBound : yBound lowText = .ok low) (highBound : yBound highText = .ok high) :
      Reading word (.yRange ⟨low, high⟩)
  | options : Reading word (.options (OptionChange.parseList word.tail))
  | next : Reading word (.select .next)
  | previous : Reading word (.select .previous)
  | select {s : Selection} (h : Selection.parse? word = some s) :
      Reading word (.select (.select s))
  | time {token : TimeToken} (h : TimeToken.parse? word = some (.ok token)) :
      Reading word (.time token)
  | invalid (fault : WordFault) : Reading word (.invalid ⟨String.ofList word, fault⟩)
  | unknown : Reading word (.unknown (String.ofList word))

/-- A word that begins as a value range is read as one, or the error says what is wrong with it.
-/
theorem reading_ofYWord (mark : Char) (text : List Char) :
    Reading (mark :: text) (ofYWord (mark :: text) text) := by
  unfold ofYWord
  cases hparts : yParts? text with
  | none => exact .unknown
  | some parts =>
    obtain ⟨lowText, highText⟩ := parts
    dsimp only
    -- The lower end is read first, and its fault is told even if the upper end has one too.
    cases hlow : yBound lowText with
    | error fault => exact .invalid fault
    | ok low =>
      cases hhigh : yBound highText with
      | error fault => exact .invalid fault
      | ok high => exact .yRange hparts hlow hhigh

/-- Every word is read by the reader of some kind, and the first that fits decides. -/
theorem reading_ofWord (word : List Char) : Reading word (ofWord word) := by
  -- The first five patterns are words of their own, and the last is tried as the rest.
  unfold ofWord
  split
  · exact .info
  · exact reading_ofYWord 'y' _
  · exact .options
  · exact .next
  · exact .previous
  · cases hselection : Selection.parse? word with
    | some s => exact .select hselection
    | none =>
      cases htoken : TimeToken.parse? word with
      | none => exact .unknown
      | some result =>
        cases result with
        | ok token => exact .time htoken
        | error e => exact .invalid _

end Intent

/-- A mapped result comes from a result. -/
private theorem exists_of_map_eq_ok {ε α β : Type} {f : α → β} {x : Except ε α} {b : β}
    (h : x.map f = .ok b) : ∃ a, f a = b := by
  cases x with
  | error e => cases h
  | ok a => exact ⟨a, Except.ok.inj h⟩

/-- The only words that are read as relative changes are those with the mark of one. -/
theorem TimeToken.shift?_of_parse?_eq_shift {word : List Char} {s : Shift}
    (h : parse? word = some (.ok (.shift s))) : shift? word = some (.shift s) := by
  unfold parse? at h
  split at h
  · cases h
  · cases h
  · split at h <;> cases h
  · dsimp only at h
    split at h
    case h_1 anchor hanchor _ =>
      -- A word that sets an edge is no relative change.
      obtain ⟨t, ht⟩ := exists_of_map_eq_ok (Option.some.inj h)
      split at hanchor <;> cases hanchor <;> cases ht
    · obtain ⟨t, ht, heq⟩ := Option.map_eq_some_iff.mp h
      rw [ht, Except.ok.inj heq]
  · cases h

/-- A relative change that is read as a time token is read from the whole word. -/
theorem TimeToken.shiftParse?_of_parse? {word : List Char} {s : Shift}
    (h : parse? word = some (.ok (.shift s))) : Shift.parse? word = some s := by
  have hshift := shift?_of_parse?_eq_shift h
  unfold shift? at hshift
  split at hshift
  · obtain ⟨s', hparse, heq⟩ := Option.map_eq_some_iff.mp hshift
    cases heq
    exact hparse
  · cases hshift

/-- Reading a relative change never marks it. Only the rest of the line can. -/
theorem TimeToken.stopAnchored_of_parse? {word : List Char} {s : Shift}
    (h : parse? word = some (.ok (.shift s))) : s.stopAnchored = false := by
  have hparse := shiftParse?_of_parse? h
  unfold Shift.parse? at hparse
  dsimp only at hparse
  split at hparse <;> cases hparse
  rfl

end SeriesPlot
