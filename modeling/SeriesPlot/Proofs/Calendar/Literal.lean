import Mathlib.Data.List.TakeWhile
import SeriesPlot.Proofs.Calendar.Written

/-!
# `SeriesPlot.Proofs.Calendar.Literal`: what a time literal says

A literal says its year by the first four digits in a row, and the later fields by groups of
one or two digits after them. `IsCut` is such a reading of a text, said without the functions
that find it: what stands before the year is a lead (`IsLead`), and what follows is divided
into groups (`IsGroups`).

* `read_eq_missingYear_iff`, `exists_isCut`: a text has no year, or it can be cut.
* `read_of_isCut`: a cut text is read as the instant that has its fields, and as nothing else.
* `read_characterised`: both together, and that the fields of an instant are read back from
  any text that has them in this form.

The search for the year is an induction on the lead: a year begins nowhere in a lead, not even
one that goes on after it (`IsLead.not_isYear_take`), so the search goes through it. The groups
are an induction on `IsGroups`, whose constructors are the cases of the reader. Fields that are
absent have defaults, and they can be put in beforehand (`hasFields_withDefaults_iff`), so that
there are always five of them. Then `instant?_eq_some_iff` says which instant has these.
-/

set_option autoImplicit false

namespace SeriesPlot

open SeriesPlot.Text

namespace TimeLiteral

/-! ### Cutting a text -/

/-- Four digits. -/
def IsYear (digits : List Char) : Prop := digits.length = 4 ∧ ∀ c ∈ digits, c.isDigit = true

/-- Four digits stand in a row somewhere in a text. -/
def HasYear (text : List Char) : Prop := ∃ digits, IsYear digits ∧ digits <:+: text

/-- A text that may stand before the year without being taken for a part of it. -/
structure IsLead (before : List Char) : Prop where
  noYear : ¬HasYear before
  noDigit : ∀ c ∈ before.getLast?, c.isDigit = false

/-- Up to `count` groups of digits at which a text is cut. Two digits that stand together are
one group, and a digit alone is one. -/
inductive IsGroups : Nat → List Char → List (List Char) → Prop
  | enough (text : List Char) : IsGroups 0 text []
  | none {count : Nat} {text : List Char} (h : ∀ c ∈ text, c.isDigit = false) :
      IsGroups count text []
  | one {count : Nat} {gap text : List Char} {d : Char} {groups : List (List Char)}
      (gapless : ∀ c ∈ gap, c.isDigit = false) (digit : d.isDigit = true)
      (alone : ∀ c ∈ text.head?, c.isDigit = false) (rest : IsGroups count text groups) :
      IsGroups (count + 1) (gap ++ d :: text) ([d] :: groups)
  | two {count : Nat} {gap text : List Char} {d e : Char} {groups : List (List Char)}
      (gapless : ∀ c ∈ gap, c.isDigit = false) (digit : d.isDigit = true)
      (digit' : e.isDigit = true) (rest : IsGroups count text groups) :
      IsGroups (count + 1) (gap ++ d :: e :: text) ([d, e] :: groups)

/-- A text cut into a lead, the four digits of a year, and up to five groups of digits. -/
def IsCut (text year : List Char) (groups : List (List Char)) : Prop :=
  ∃ before after, text = before ++ (year ++ after) ∧ IsLead before ∧ IsYear year ∧
    IsGroups 5 after groups

variable {text before year after : List Char} {parts : List (List Char)}

/-! ### The year -/

/-- The test for a year at the front of a text, as the reader makes it. -/
theorem isYear_take_iff :
    IsYear (text.take 4) ↔ 4 ≤ text.length ∧ (text.take 4).all Char.isDigit := by
  rw [IsYear, List.length_take, List.all_eq_true]
  exact and_congr_left fun _ => by omega

/-- Four digits in a row stand at the front of a text or later in it. -/
theorem hasYear_cons_iff {c : Char} :
    HasYear (c :: text) ↔ IsYear ((c :: text).take 4) ∨ HasYear text := by
  constructor
  · rintro ⟨digits, hyear, hinfix⟩
    rcases List.infix_cons_iff.mp hinfix with hprefix | hlater
    · rw [← hyear.1, ← List.prefix_iff_eq_take.mp hprefix]
      exact .inl hyear
    · exact .inr ⟨digits, hyear, hlater⟩
  · rintro (hyear | ⟨digits, hyear, hinfix⟩)
    · exact ⟨_, hyear, (List.take_prefix 4 _).isInfix⟩
    · exact ⟨digits, hyear, List.infix_cons hinfix⟩

/-- Nothing at all may stand before the year. -/
theorem isLead_nil : IsLead [] where
  noYear := by
    rintro ⟨digits, hyear, hinfix⟩
    rw [List.infix_nil.mp hinfix] at hyear
    exact absurd hyear.1 (by decide)
  noDigit := nofun

/-- A lead without its first character is a lead. -/
theorem IsLead.of_cons {c : Char} (h : IsLead (c :: before)) : IsLead before where
  noYear := fun hyear => h.noYear (hasYear_cons_iff.mpr (.inr hyear))
  noDigit := by
    intro d hd
    refine h.noDigit d ?_
    rw [List.getLast?_cons, Option.mem_def.mp hd]
    rfl

/-- A year begins nowhere in a lead, not even one that goes on after it. -/
theorem IsLead.not_isYear_take {c : Char} (h : IsLead (c :: before)) (rest : List Char) :
    ¬IsYear ((c :: before ++ rest).take 4) := by
  intro hyear
  by_cases hlength : 4 ≤ (c :: before).length
  · rw [List.take_append_of_le_length hlength] at hyear
    exact h.noYear (hasYear_cons_iff.mpr (.inl hyear))
  · -- All of the lead would be digits, but its last character is none.
    obtain ⟨last, hlast⟩ : ∃ last, (c :: before).getLast? = some last :=
      Option.isSome_iff_exists.mp (by simp)
    have hmem : last ∈ (c :: before ++ rest).take 4 := by
      rw [List.take_append, List.take_of_length_le (by omega)]
      exact List.mem_append_left _ (List.mem_of_getLast? hlast)
    have hdigit := hyear.2 last hmem
    rw [h.noDigit last hlast] at hdigit
    cases hdigit

/-- The year is found behind any lead, and what follows it is left over. -/
theorem year?_append (hlead : IsLead before) (hyear : IsYear year) (after : List Char) :
    year? (before ++ (year ++ after)) = some (digitsValue year, after) := by
  induction before with
  | nil =>
    obtain ⟨hlength, hdigits⟩ := hyear
    match year, hlength with
    | [a, b, c, d], _ =>
      rw [List.nil_append, List.cons_append, year?, if_pos ⟨by simp, by simpa using hdigits⟩]
      rfl
  -- The search does not stop within the lead, so it goes on with one character less of it.
  | cons c before ih =>
    have hnot := mt isYear_take_iff.mpr (hlead.not_isYear_take (year ++ after))
    rw [List.cons_append] at hnot ⊢
    rw [year?, if_neg hnot]
    exact ih hlead.of_cons

/-- No year is found iff there are no four digits in a row. -/
theorem year?_eq_none_iff : year? text = none ↔ ¬HasYear text := by
  induction text with
  | nil => exact iff_of_true rfl isLead_nil.noYear
  | cons c text ih =>
    rw [year?, hasYear_cons_iff, isYear_take_iff]
    split
    · simp_all
    · simp_all

/-- The first four digits in a row come after a lead. -/
theorem exists_lead (h : HasYear text) :
    ∃ before year after, text = before ++ (year ++ after) ∧ IsLead before ∧ IsYear year := by
  induction text with
  | nil => exact absurd h isLead_nil.noYear
  | cons c text ih =>
    by_cases hfirst : IsYear ((c :: text).take 4)
    · exact ⟨[], _, (c :: text).drop 4, by simp, isLead_nil, hfirst⟩
    · obtain ⟨before, year, after, rfl, hlead, hyear⟩ :=
        ih ((hasYear_cons_iff.mp h).resolve_left hfirst)
      refine ⟨c :: before, year, after, rfl, ⟨?_, ?_⟩, hyear⟩
      · rw [hasYear_cons_iff, not_or]
        refine ⟨fun hearlier => hfirst ?_, hlead.noYear⟩
        have hlength : 4 ≤ (c :: before).length := (isYear_take_iff.mp hearlier).1
        rw [← List.cons_append, List.take_append_of_le_length hlength]
        exact hearlier
      · cases before with
        | cons d before =>
          rw [List.getLast?_cons_cons]
          exact hlead.noDigit
        | nil =>
          -- A digit right before the four would be the first of an earlier four.
          obtain ⟨hlength, hdigits⟩ := hyear
          match year, hlength with
          | [a, b, d, e], _ =>
            intro last hlast
            obtain rfl : c = last := Option.some.inj hlast
            refine Bool.eq_false_iff.mpr fun hdigit => hfirst ⟨rfl, ?_⟩
            simp_all

/-! ### The groups after it -/

/-- Any number of characters that are no digits may stand before a group. -/
theorem groups_append_of_not_isDigit {gap : List Char} (h : ∀ c ∈ gap, c.isDigit = false)
    (count : Nat) (rest : List Char) : groups count (gap ++ rest) = groups count rest := by
  induction gap with
  | nil => rfl
  | cons c gap ih =>
    rw [List.forall_mem_cons] at h
    rw [List.cons_append, groups_cons_of_not_isDigit h.1, ih h.2]

/-- The groups that are read are those at which a text is cut. -/
theorem groups_eq_of_isGroups {count : Nat} (h : IsGroups count text parts) :
    groups count text = parts.map digitsValue := by
  induction h with
  | enough text => rfl
  | @none count text hnone =>
    rw [← List.append_nil text, groups_append_of_not_isDigit hnone]
    cases count <;> rfl
  | one hgap hdigit halone _ ih =>
    -- The digit is a group of its own only as the next character is none.
    rw [groups_append_of_not_isDigit hgap, List.map_cons, ← ih]
    rename_i text _ _ _
    cases text with
    | nil => simp [groups, hdigit]
    | cons c text => simp [groups, hdigit, halone c rfl]
  | two hgap hdigit hdigit' _ ih =>
    rw [groups_append_of_not_isDigit hgap, List.map_cons, ← ih]
    simp [groups, hdigit, hdigit']

/-- No more groups are cut than asked for. -/
theorem length_le_of_isGroups {count : Nat} (h : IsGroups count text parts) :
    parts.length ≤ count := by
  induction h with
  | enough text => exact Nat.le_refl 0
  | none _ => exact Nat.zero_le _
  | one _ _ _ _ ih => exact Nat.succ_le_succ ih
  | two _ _ _ _ ih => exact Nat.succ_le_succ ih

/-- Any text can be divided into groups. -/
theorem exists_isGroups (count : Nat) (text : List Char) : ∃ parts, IsGroups count text parts := by
  induction count generalizing text with
  | zero => exact ⟨[], .enough text⟩
  | succ count ih =>
    have hgap : ∀ c ∈ text.takeWhile (!·.isDigit), c.isDigit = false := fun c hc => by
      simpa using List.mem_takeWhile_imp hc
    have htext := List.takeWhile_append_dropWhile (p := (!·.isDigit)) (l := text)
    cases hrest : text.dropWhile (!·.isDigit) with
    | nil =>
      rw [hrest, List.append_nil] at htext
      exact ⟨[], .none (htext ▸ hgap)⟩
    | cons d rest =>
      have hdigit : d.isDigit = true := by
        have := List.head?_dropWhile_not (!·.isDigit) text
        simpa [hrest] using this
      rw [hrest] at htext
      rw [← htext]
      -- Whether the digit is alone is seen from the next character.
      cases rest with
      | nil =>
        exact ⟨_, .one hgap hdigit nofun (.none nofun)⟩
      | cons e rest =>
        cases hnext : e.isDigit with
        | true =>
          obtain ⟨parts, hparts⟩ := ih rest
          exact ⟨_, .two hgap hdigit hnext hparts⟩
        | false =>
          obtain ⟨parts, hparts⟩ := ih (e :: rest)
          exact ⟨_, .one hgap hdigit (fun c hc => Option.some.inj hc ▸ hnext) hparts⟩

/-- A text with four digits in a row can be cut, at the first year and the groups after it. -/
theorem exists_isCut (h : HasYear text) : ∃ year parts, IsCut text year parts := by
  obtain ⟨before, year, after, htext, hlead, hyear⟩ := exists_lead h
  obtain ⟨parts, hparts⟩ := exists_isGroups 5 after
  exact ⟨year, parts, before, after, htext, hlead, hyear, hparts⟩

end TimeLiteral

/-! ### The fields of an instant -/

/-- Fields after the year, where those that are absent are the first month, the first day and
midnight. -/
def TimeLiteral.withDefaults (later : List Nat) : List Nat :=
  later ++ [1, 1, 0, 0, 0].drop later.length

namespace Instant

variable {t u : Instant} {year : Int} {later : List Nat}

/-- The second of the minute. -/
def second (t : Instant) : Nat := t.millisOfDay / 1000 % 60

/-- A minute has sixty seconds. -/
theorem second_lt (t : Instant) : t.second < 60 := Nat.mod_lt _ (by decide)

/-- The fields of an instant after its year: month, day, hour, minute and second. -/
def laterFields (t : Instant) : List Nat :=
  [t.date.month, t.date.day, t.hour, t.minute, t.second]

/-- The instant of a year and the fields after it, of which some at the end may be absent. -/
structure HasFields (t : Instant) (year : Int) (later : List Nat) : Prop where
  wholeSecond : t.millisOfDay % 1000 = 0
  year_eq : t.date.year = year
  later_eq : t.laterFields = TimeLiteral.withDefaults later

/-- The first fields of an instant with zeros in front: the year, and one more field for each
gap, which is written before it. -/
def writtenFields (t : Instant) (gaps : List (List Char)) : List Char :=
  fixedDigits 4 t.date.year.toNat ++
    (gaps.zipWith (fun gap field => gap ++ fixedDigits 2 field) t.laterFields).flatten

/-- The text of an instant to the second, such as `2013-06-01 05:00:00`. -/
def secondText (t : Instant) : String :=
  String.ofList (t.writtenFields [['-'], ['-'], [' '], [':'], [':']])

/-- The time of day of an instant without a fraction of a second. -/
theorem millisOfDay_eq_of_wholeSecond (h : t.millisOfDay % 1000 = 0) :
    t.millisOfDay = ((t.hour * 60 + t.minute) * 60 + t.second) * 1000 := by
  unfold hour minute second
  omega

/-- Fields stand for one instant at most. -/
theorem HasFields.unique (h : t.HasFields year later) (h' : u.HasFields year later) : t = u := by
  have hlater : t.laterFields = u.laterFields := h.later_eq.trans h'.later_eq.symm
  unfold laterFields at hlater
  simp only [List.cons.injEq, and_true] at hlater
  obtain ⟨hmonth, hday, hhour, hminute, hsecond⟩ := hlater
  have hyear : t.date.year = u.date.year := h.year_eq.trans h'.year_eq.symm
  have hdate : t.date = u.date := by
    cases hd : t.date
    cases hd' : u.date
    simp_all
  -- A whole second has no fraction that the fields could miss.
  apply eq_of_millis_eq
  rw [t.millis_eq, u.millis_eq, millisOfDay_eq_of_wholeSecond h.wholeSecond,
    millisOfDay_eq_of_wholeSecond h'.wholeSecond, hdate, hhour, hminute, hsecond]

end Instant

namespace TimeLiteral

variable {t : Instant} {text : String} {year : List Char} {parts : List (List Char)}

/-- A date and a time of day are an instant if there is one with these fields. -/
theorem instant?_eq_some_iff {d : Date} {hour minute second : Nat} :
    instant? d hour minute second = some t ↔
      t.HasFields d.year [d.month, d.day, hour, minute, second] := by
  unfold instant?
  constructor
  · intro h
    split at h
    case isTrue hvalid =>
      obtain ⟨hdate, hhour, hminute, hsecond⟩ := hvalid
      have hlt : ((((hour * 60 + minute) * 60 + second) * 1000 : Nat) : Int) <
          Instant.millisPerDay := by
        unfold Instant.millisPerDay
        omega
      obtain ⟨rfl, hmillis⟩ := (Instant.ofDate?_eq_some_iff hdate hlt).mp h
      refine ⟨by omega, rfl, ?_⟩
      -- The fields are read off the time of day by division.
      have hhour' : t.hour = hour := by
        unfold Instant.hour
        omega
      have hminute' : t.minute = minute := by
        unfold Instant.minute
        omega
      have hsecond' : t.second = second := by
        unfold Instant.second
        omega
      rw [Instant.laterFields, hhour', hminute', hsecond']
      rfl
    case isFalse => cases h
  · rintro ⟨hwhole, hyear, hlater⟩
    -- The fields of an instant are in range, so they pass the checks.
    obtain ⟨year, month, day⟩ := d
    obtain rfl : t.date.year = year := hyear
    simp only [Instant.laterFields, withDefaults, List.length_cons, List.length_nil,
      List.drop_succ_cons, List.drop_nil, List.append_nil, List.cons.injEq, and_true] at hlater
    obtain ⟨rfl, rfl, rfl, rfl, rfl⟩ := hlater
    rw [if_pos ⟨t.valid_date, t.hour_lt, t.minute_lt, t.second_lt⟩,
      ← Instant.millisOfDay_eq_of_wholeSecond hwhole]
    exact (Instant.ofDate?_eq_some_iff t.valid_date t.millisOfDay_lt).mpr ⟨rfl, rfl⟩

/-- With its defaults a list of fields is five fields long, whatever number was given. -/
theorem withDefaults_eq {later : List Nat} (h : later.length ≤ 5) :
    withDefaults later =
      [later.getD 0 1, later.getD 1 1, later.getD 2 0, later.getD 3 0, later.getD 4 0] := by
  match later, h with
  | [], _ => rfl
  | [_], _ => rfl
  | [_, _], _ => rfl
  | [_, _, _], _ => rfl
  | [_, _, _, _], _ => rfl
  | [_, _, _, _, _], _ => rfl

/-- Defaults can be put in beforehand. -/
theorem hasFields_withDefaults_iff {year : Int} {later : List Nat} (h : later.length ≤ 5) :
    t.HasFields year (withDefaults later) ↔ t.HasFields year later := by
  have htwice : withDefaults (withDefaults later) = withDefaults later := by
    rw [withDefaults_eq h]
    rfl
  constructor
  · rintro ⟨hwhole, hyear, hlater⟩
    exact ⟨hwhole, hyear, hlater.trans htwice⟩
  · rintro ⟨hwhole, hyear, hlater⟩
    exact ⟨hwhole, hyear, hlater.trans htwice.symm⟩

/-! ### Reading -/

/-- A cut text is read as the instant that has its fields, if there is one. -/
theorem read_of_isCut (h : IsCut text.toList year parts) :
    (∀ t, read text = .ok t ↔ t.HasFields (digitsValue year) (parts.map digitsValue)) ∧
      (read text = .error (.invalidLiteral text) ↔
        ¬∃ t : Instant, t.HasFields (digitsValue year) (parts.map digitsValue)) := by
  obtain ⟨before, after, htext, hlead, hyear, hparts⟩ := h
  have hlength : (parts.map digitsValue).length ≤ 5 := by
    rw [List.length_map]
    exact length_le_of_isGroups hparts
  -- The groups that are missing have their defaults in the reading and in the fields alike.
  have hfields : ∀ t : Instant, t.HasFields (digitsValue year) (parts.map digitsValue) ↔
      instant? ⟨digitsValue year, (groups 5 after).getD 0 1, (groups 5 after).getD 1 1⟩
        ((groups 5 after).getD 2 0) ((groups 5 after).getD 3 0) ((groups 5 after).getD 4 0) =
          some t := by
    intro t
    rw [instant?_eq_some_iff, groups_eq_of_isGroups hparts, ← withDefaults_eq hlength,
      hasFields_withDefaults_iff hlength]
  simp only [hfields]
  unfold read
  rw [htext, year?_append hlead hyear]
  dsimp only
  split <;> simp_all

/-- The error of a missing year is for just the texts without four digits in a row. -/
theorem read_eq_missingYear_iff :
    read text = .error (.missingYear text) ↔ ¬HasYear text.toList := by
  rw [← year?_eq_none_iff]
  unfold read
  split
  · simp_all
  · dsimp only
    split <;> simp_all

/-! ### Reading what is written -/

/-- Fields of two digits are groups, whatever gaps are before them. -/
theorem isGroups_zipWith {count : Nat} {gaps : List (List Char)} {values : List Nat}
    {after : List Char} (hgaps : ∀ gap ∈ gaps, ∀ c ∈ gap, c.isDigit = false)
    (hvalues : gaps.length ≤ values.length) (hcount : gaps.length ≤ count)
    (hafter : gaps.length < count → ∀ c ∈ after, c.isDigit = false) :
    IsGroups count
      ((gaps.zipWith (fun gap value => gap ++ fixedDigits 2 value) values).flatten ++ after)
      ((values.take gaps.length).map (fixedDigits 2)) := by
  induction gaps generalizing count values with
  | nil =>
    cases count with
    | zero => exact .enough _
    | succ count => exact .none (hafter (Nat.succ_pos count))
  -- Each gap takes one value with it, and one of the groups that may still come.
  | cons gap gaps ih =>
    obtain ⟨hgap, hgaps⟩ := List.forall_mem_cons.mp hgaps
    match values, count, hvalues, hcount with
    | value :: values, count + 1, hvalues, hcount =>
      have hrest := ih hgaps (Nat.le_of_succ_le_succ hvalues) (Nat.le_of_succ_le_succ hcount)
        fun hlt => hafter (Nat.succ_lt_succ hlt)
      have hpair : fixedDigits 2 value = [digitChar (value / 10), digitChar value] := rfl
      simp only [List.zipWith_cons_cons, List.flatten_cons, List.length_cons,
        List.take_succ_cons, List.map_cons, List.append_assoc, hpair, List.cons_append,
        List.nil_append]
      exact .two hgap (isDigit_digitChar _) (isDigit_digitChar _) hrest

/-- Any number written with four digits can be taken for a year. -/
theorem isYear_fixedDigits (n : Nat) : IsYear (fixedDigits 4 n) :=
  ⟨length_fixedDigits 4 n, fun _ => isDigit_of_mem_fixedDigits⟩

/-- Every field after the year fits into two digits. -/
theorem lt_hundred_of_mem_laterFields {value : Nat} (h : value ∈ t.laterFields) : value < 100 := by
  obtain ⟨-, hmonth, -, hday⟩ := t.valid_date
  have hlength := Calendar.daysInMonth_bounds (Calendar.isLeap t.date.year) t.date.month
  have hhour := t.hour_lt
  have hminute := t.minute_lt
  have hsecond := t.second_lt
  simp only [Instant.laterFields, List.mem_cons, List.not_mem_nil, or_false] at h
  rcases h with rfl | rfl | rfl | rfl | rfl <;> omega

/-- The fields after the year are read back from the two digits of each. -/
theorem map_digitsValue_laterFields (t : Instant) (count : Nat) :
    ((t.laterFields.take count).map (fixedDigits 2)).map digitsValue =
      t.laterFields.take count := by
  rw [List.map_map, List.map_congr_left (g := id), List.map_id]
  intro value hvalue
  show digitsValue (fixedDigits 2 value) = value
  rw [digitsValue_fixedDigits]
  exact Nat.mod_eq_of_lt (lt_hundred_of_mem_laterFields (List.mem_of_mem_take hvalue))

/-- The text of an instant's first fields, between a lead and a rest, is cut into them. -/
theorem isCut_writtenFields {before after : List Char} {gaps : List (List Char)}
    (hbefore : IsLead before)
    (hgaps : ∀ gap ∈ gaps, ∀ c ∈ gap, c.isDigit = false) (hlength : gaps.length ≤ 5)
    (hafter : gaps.length < 5 → ∀ c ∈ after, c.isDigit = false) :
    IsCut (before ++ (t.writtenFields gaps ++ after)) (fixedDigits 4 t.date.year.toNat)
      ((t.laterFields.take gaps.length).map (fixedDigits 2)) := by
  refine ⟨before, _, ?_, hbefore, isYear_fixedDigits _,
    isGroups_zipWith hgaps hlength hlength hafter⟩
  rw [Instant.writtenFields, List.append_assoc]

/-- A valid date and a time of day are an instant. -/
theorem exists_hasFields {d : Date} (hdate : d.Valid) (hrange : Instant.YearInRange d.year)
    {hour minute second : Nat} (hhour : hour < 24) (hminute : minute < 60)
    (hsecond : second < 60) :
    ∃ r : Instant, r.HasFields d.year [d.month, d.day, hour, minute, second] := by
  have hlt : ((((hour * 60 + minute) * 60 + second) * 1000 : Nat) : Int) <
      Instant.millisPerDay := by
    unfold Instant.millisPerDay
    omega
  obtain ⟨r, hr⟩ := (Instant.exists_ofDate?_eq_some_iff hdate hlt).mpr hrange
  refine ⟨r, instant?_eq_some_iff.mp ?_⟩
  rw [instant?, if_pos ⟨hdate, hhour, hminute, hsecond⟩, hr]

/-- Cut short, the fields of an instant are those of the start of a period around it. -/
theorem exists_hasFields_take (t : Instant) {count : Nat} (h : count ≤ 5) :
    ∃ r : Instant, r.HasFields t.date.year (t.laterFields.take count) := by
  have hrange := t.yearInRange_date
  have hdate := t.valid_date
  have hmonth : Date.Valid ⟨t.date.year, t.date.month, 1⟩ :=
    ⟨hdate.1, hdate.2.1, Nat.le_refl 1, Nat.le_trans hdate.2.2.1 hdate.2.2.2⟩
  have hyear : Date.Valid ⟨t.date.year, 1, 1⟩ :=
    ⟨Nat.le_refl 1, Nat.le_add_left 1 11, Nat.le_refl 1, Nat.le_add_left 1 30⟩
  have hcut : ∃ r : Instant,
      r.HasFields t.date.year (withDefaults (t.laterFields.take count)) := by
    match count, h with
    | 0, _ => exact exists_hasFields hyear hrange (by decide) (by decide) (by decide)
    | 1, _ => exact exists_hasFields hmonth hrange (by decide) (by decide) (by decide)
    | 2, _ => exact exists_hasFields hdate hrange (by decide) (by decide) (by decide)
    | 3, _ => exact exists_hasFields hdate hrange t.hour_lt (by decide) (by decide)
    | 4, _ => exact exists_hasFields hdate hrange t.hour_lt t.minute_lt (by decide)
    | 5, _ => exact exists_hasFields hdate hrange t.hour_lt t.minute_lt t.second_lt
  -- The cases have the defaults written out.
  obtain ⟨r, hr⟩ := hcut
  have hlength : (t.laterFields.take count).length ≤ 5 := List.length_take_le' count t.laterFields
  exact ⟨r, (hasFields_withDefaults_iff hlength).mp hr⟩

/-- The instant that the first fields of `t` stand for is read from their text. -/
theorem read_writtenFields {before after : List Char} {gaps : List (List Char)}
    (hyear : 0 ≤ t.date.year ∧ t.date.year ≤ 9999) (hbefore : IsLead before)
    (hgaps : ∀ gap ∈ gaps, ∀ c ∈ gap, c.isDigit = false) (hlength : gaps.length ≤ 5)
    (hafter : gaps.length < 5 → ∀ c ∈ after, c.isDigit = false) :
    ∃ r, read (String.ofList (before ++ (t.writtenFields gaps ++ after))) = .ok r ∧
      r.HasFields t.date.year (t.laterFields.take gaps.length) := by
  obtain ⟨r, hr⟩ := exists_hasFields_take t hlength
  have hcut := isCut_writtenFields (t := t) hbefore hgaps hlength hafter
  rw [← String.toList_ofList (l := before ++ (t.writtenFields gaps ++ after))] at hcut
  have hvalue : ((digitsValue (fixedDigits 4 t.date.year.toNat) : Nat) : Int) = t.date.year := by
    rw [digitsValue_fixedDigits]
    omega
  refine ⟨r, ((read_of_isCut hcut).1 r).mpr ?_, hr⟩
  rwa [hvalue, map_digitsValue_laterFields]

/-- Writing the first fields of an instant, with zeros in front and anything but digits between
them, and reading the text gives the instant that these fields stand for. So an instant of
whole seconds is read back from its text to the second.

A text has no year, or it is cut around its first four digits in a row into groups of one or
two digits. It is read as the instant with exactly these fields, and refused if there is none. -/
theorem read_characterised :
    (∀ (t : Instant) (before after : List Char) (gaps : List (List Char)),
      0 ≤ t.date.year ∧ t.date.year ≤ 9999 → IsLead before →
      (∀ gap ∈ gaps, ∀ c ∈ gap, c.isDigit = false) → gaps.length ≤ 5 →
      (gaps.length < 5 → ∀ c ∈ after, c.isDigit = false) →
        ∃ r, read (String.ofList (before ++ (t.writtenFields gaps ++ after))) = .ok r ∧
          r.HasFields t.date.year (t.laterFields.take gaps.length)) ∧
    (∀ t : Instant, t.millisOfDay % 1000 = 0 → 0 ≤ t.date.year ∧ t.date.year ≤ 9999 →
      read t.secondText = .ok t) ∧
    ∀ text : String,
      (read text = .error (.missingYear text) ↔ ¬HasYear text.toList) ∧
      (HasYear text.toList → ∃ year parts, IsCut text.toList year parts) ∧
      ∀ year parts, IsCut text.toList year parts →
        (∀ t, read text = .ok t ↔ t.HasFields (digitsValue year) (parts.map digitsValue)) ∧
        (read text = .error (.invalidLiteral text) ↔
          ¬∃ t : Instant, t.HasFields (digitsValue year) (parts.map digitsValue)) := by
  refine ⟨fun t before after gaps hyear hbefore hgaps hlength hafter =>
    read_writtenFields hyear hbefore hgaps hlength hafter, fun t hwhole hyear => ?_, fun text =>
    ⟨read_eq_missingYear_iff, exists_isCut, fun year parts => read_of_isCut⟩⟩
  have hgaps : ∀ gap ∈ [['-'], ['-'], [' '], [':'], [':']], ∀ c ∈ gap, c.isDigit = false := by
    simp
  have hafter : 5 < 5 → ∀ c ∈ ([] : List Char), c.isDigit = false := nofun
  obtain ⟨r, hread, hr⟩ := read_writtenFields hyear isLead_nil hgaps (Nat.le_refl 5) hafter
  rw [List.nil_append, List.append_nil] at hread
  rw [Instant.secondText, hread, hr.unique ⟨hwhole, rfl, rfl⟩]

/-- A date in which the month follows without a gap, between texts that are no part of it, and
a day that February does not have. -/
theorem read_characterised_of_loose_text :
    let t : Instant := ⟨1365142028000, by decide, by decide⟩
    let text :=
      String.ofList (['x', '1', '2', ':'] ++ (t.writtenFields [[], ['/'], ['T']] ++ ['h']))
    text = "x12:201304/05T06h" ∧ (∃ r, read text = .ok r ∧ r.HasFields 2013 [4, 5, 6]) ∧
      t.secondText = "2013-04-05 06:07:08" ∧ read t.secondText = .ok t ∧
      IsCut "s2013-2-30".toList ['2', '0', '1', '3'] [['2'], ['3', '0']] ∧
      (¬∃ r : Instant, r.HasFields 2013 [2, 30]) ∧
      ¬HasYear "13-01-01".toList := by
  intro t text
  obtain ⟨hwritten, hexact, hread⟩ := read_characterised
  have hlead : IsLead ['x', '1', '2', ':'] :=
    ⟨year?_eq_none_iff.mp (by decide), by simp⟩
  have hgap : ∀ c ∈ ['-'], c.isDigit = false := by simp
  have hcut : IsCut "s2013-2-30".toList ['2', '0', '1', '3'] [['2'], ['3', '0']] :=
    ⟨['s'], ['-', '2', '-', '3', '0'], by decide, ⟨year?_eq_none_iff.mp (by decide), by simp⟩,
      ⟨rfl, by simp⟩, .one hgap (by decide) (by simp)
        (.two hgap (by decide) (by decide) (.none nofun))⟩
  obtain ⟨r, hr, hfields⟩ := hwritten t ['x', '1', '2', ':'] ['h'] [[], ['/'], ['T']]
    (by decide) hlead (by simp) (by decide) (by simp)
  have hyear : t.date.year = 2013 := by decide
  have hlater : t.laterFields.take 3 = [4, 5, 6] := by decide
  exact ⟨by decide, ⟨r, hr, hyear ▸ hlater ▸ hfields⟩, by decide,
    hexact t (by decide) (by decide), hcut,
    ((hread "s2013-2-30").2.2 _ _ hcut).2.mp (by decide),
    (hread "13-01-01").1.mp (by decide)⟩

end TimeLiteral

end SeriesPlot
