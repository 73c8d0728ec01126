/-!
# `SeriesPlot.Text.Utf8`: decoding bytes

A byte sequence is read one byte at a time. A leading byte announces how many
bytes the character still owes and in which range the next of them lies; the
first byte that breaks this promise ends an invalid stretch and is read again as
a leading byte. Each invalid stretch therefore is as long as the start of some
valid character can be, and counts once.

* `characters`: the characters of a sequence, absent ones standing for invalid
  stretches.
* `decode?`: the text of a valid sequence.
* `decodeLossy`: the text with U+FFFD for each invalid stretch.
-/

set_option autoImplicit false

namespace SeriesPlot.Text.Utf8

/-- A character of which some bytes have been read: how many it still owes, the
range of the next one, and the bits read so far. -/
structure Pending where
  owed : Nat
  low : Nat
  high : Nat
  bits : Nat

/-- What a leading byte begins. -/
inductive Lead where
  | character (c : Char)
  | pending (p : Pending)
  | invalid

/-- The reading of a leading byte. The ranges of the second byte leave out
overlong forms, surrogates, and numbers above U+10FFFF. -/
def lead (b : Nat) : Lead :=
  if b ≤ 0x7F then .character (Char.ofNat b)
  else if b < 0xC2 then .invalid
  else if b ≤ 0xDF then .pending ⟨1, 0x80, 0xBF, b - 0xC0⟩
  else if b = 0xE0 then .pending ⟨2, 0xA0, 0xBF, b - 0xE0⟩
  else if b = 0xED then .pending ⟨2, 0x80, 0x9F, b - 0xE0⟩
  else if b ≤ 0xEF then .pending ⟨2, 0x80, 0xBF, b - 0xE0⟩
  else if b = 0xF0 then .pending ⟨3, 0x90, 0xBF, b - 0xF0⟩
  else if b = 0xF4 then .pending ⟨3, 0x80, 0x8F, b - 0xF0⟩
  else if b < 0xF4 then .pending ⟨3, 0x80, 0xBF, b - 0xF0⟩
  else .invalid

/-- A decoder between two bytes: what it has read, last first, and the character
it is in the middle of. -/
structure Decoder where
  read : List (Option Char) := []
  pending : Option Pending := none

namespace Decoder

/-- Reads a leading byte. -/
def begin (d : Decoder) (b : Nat) : Decoder :=
  match lead b with
  | .character c => { read := some c :: d.read }
  | .pending p => { read := d.read, pending := some p }
  | .invalid => { read := none :: d.read }

/-- Reads one byte. -/
def feed (d : Decoder) (byte : UInt8) : Decoder :=
  let b := byte.toNat
  match d.pending with
  | none => d.begin b
  | some p =>
    if p.low ≤ b ∧ b ≤ p.high then
      let bits := 64 * p.bits + (b - 0x80)
      if p.owed ≤ 1 then { read := some (Char.ofNat bits) :: d.read }
      else { read := d.read, pending := some ⟨p.owed - 1, 0x80, 0xBF, bits⟩ }
    else Decoder.begin { read := none :: d.read } b

/-- What has been read once the bytes are over; a character cut short is invalid. -/
def finish (d : Decoder) : List (Option Char) :=
  match d.pending with
  | none => d.read.reverse
  | some _ => (none :: d.read).reverse

end Decoder

/-- The characters of a byte sequence in order, absent for each invalid stretch. -/
def characters (bytes : List UInt8) : List (Option Char) :=
  (bytes.foldl Decoder.feed {}).finish

/-- The text of a byte sequence without invalid stretches. -/
def decode? (bytes : List UInt8) : Option (List Char) :=
  let cs := characters bytes
  if cs.all Option.isSome then some (cs.filterMap id) else none

/-- The text of a byte sequence with U+FFFD for each invalid stretch. -/
def decodeLossy (bytes : List UInt8) : List Char :=
  (characters bytes).map (·.getD '\uFFFD')

end SeriesPlot.Text.Utf8
