/-!
# `SeriesPlot.Text.Terminal`: what a terminal shows of a text

A terminal takes some characters of a text as instructions. An escape character
begins a sequence, and the next character says of which kind: a control sequence
goes on to its final character, a command string to a bell, any other string to a
terminator or the next escape character. Blank control characters are shown
outside of strings; all others, and the delete character, never are. A cancel or
a substitute character ends every sequence, and so does a character that is shown.

Characters beyond ASCII are shown, but not within a sequence, where they mean
nothing: only a string looks into the bytes of such a character for its
terminator.

* `visible`: the text without what a terminal does not show.
* `visibleFrom_visibleFrom`: what is shown of a text is shown as it is.
-/

set_option autoImplicit false

namespace SeriesPlot.Text.Terminal

/-- What a terminal is reading. -/
inductive Mode where
  /-- Text to be shown. -/
  | text
  /-- The character after an escape character. -/
  | escape
  /-- An escape sequence of several characters, up to its final one. -/
  | designation
  /-- A control sequence, up to its final character. -/
  | control
  /-- A command to the system around the terminal, up to a bell. -/
  | command
  /-- The start of a device control string. -/
  | deviceStart
  /-- The parameters of a device control string. -/
  | deviceParameters
  /-- The signs between the parameters of a device control string and its text. -/
  | deviceSigns
  /-- The text of a string, up to its terminator. -/
  | string
deriving DecidableEq, Inhabited

/-- The control characters that are blank: the tab, the line feed, the form feed,
and the carriage return. -/
def isBlankControl (c : Char) : Bool := c == '\t' || c == '\n' || c == '\x0c' || c == '\r'

/-- Whether a character lies between two others, ends included. -/
def isBetween (low high c : Char) : Bool := low ≤ c && c ≤ high

/-- The byte that ends a string. -/
def stringTerminator : UInt8 := 0x9C

namespace Mode

/-- Whether a character is shown. -/
def shows (m : Mode) (c : Char) : Bool :=
  match m with
  | text => isBlankControl c || (' ' ≤ c && c != '\x7f')
  | escape => isBlankControl c
  | designation => isBlankControl c
  | control => isBlankControl c
  | _ => false

/-- What is read after the second character of a sequence. The letters `X`, `^`,
and `_` begin strings, `P` a device control string, `[` a control sequence, and
`]` a command; other letters and signs are whole sequences. -/
def afterEscape (c : Char) : Mode :=
  if c == '[' then control
  else if c == ']' then command
  else if c == 'P' then deviceStart
  else if c == 'X' || c == '^' || c == '_' then string
  else if isBetween ' ' '/' c then designation
  else if isBetween '0' '~' c then text
  else escape

/-- What is read after a character that is not shown. Signs that stand where they
may not begin the text of a device control string. -/
def next (m : Mode) (c : Char) : Mode :=
  if c == '\x1b' then escape
  else if c == '\x18' || c == '\x1a' then text
  else match m with
    | text => text
    | escape => afterEscape c
    | designation => if isBetween '0' '~' c then text else designation
    | control => if isBetween '@' '~' c then text else control
    | command => if c == '\x07' then text else command
    | deviceStart =>
      if isBetween ' ' '/' c then deviceSigns
      else if isBetween '0' '?' c then deviceParameters
      else if isBetween '@' '~' c then string
      else deviceStart
    | deviceParameters =>
      if isBetween ' ' '/' c then deviceSigns
      else if isBetween '<' '~' c then string
      else deviceParameters
    | deviceSigns => if isBetween '0' '~' c then string else deviceSigns
    | string => if (String.utf8EncodeChar c).contains stringTerminator then text else string

end Mode

/-- The characters that are shown of some characters. -/
def visibleFrom : Mode → List Char → List Char
  | _, [] => []
  | m, c :: rest =>
    if m.shows c then c :: visibleFrom .text rest else visibleFrom (m.next c) rest

/-- What a terminal shows of a text. -/
def visible (text : String) : String := String.ofList (visibleFrom .text text.toList)

/-- A character that is shown within a sequence is shown outside of sequences. -/
theorem Mode.shows_text {m : Mode} {c : Char} (h : m.shows c = true) :
    Mode.text.shows c = true := by
  cases m <;> simp_all [Mode.shows]

/-- What is shown of some characters is shown as it is. -/
theorem visibleFrom_visibleFrom (m : Mode) (cs : List Char) :
    visibleFrom .text (visibleFrom m cs) = visibleFrom m cs := by
  induction cs generalizing m with
  | nil => rfl
  | cons c rest ih =>
    by_cases h : m.shows c = true
    · simp [visibleFrom, h, Mode.shows_text h, ih]
    · simp [visibleFrom, h, ih]

end SeriesPlot.Text.Terminal
