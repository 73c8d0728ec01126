/-!
# `SeriesPlot.Text.Blank`: white space

The characters with the Unicode property White_Space. Zero-width spaces and the
ASCII separators U+001C to U+001F do not have it.
-/

set_option autoImplicit false

namespace SeriesPlot.Text

/-- The ranges of code points with the property White_Space, ends included. -/
def blankRanges : List (Nat × Nat) :=
  [(0x09, 0x0D), (0x20, 0x20), (0x85, 0x85), (0xA0, 0xA0), (0x1680, 0x1680),
   (0x2000, 0x200A), (0x2028, 0x2029), (0x202F, 0x202F), (0x205F, 0x205F), (0x3000, 0x3000)]

/-- Whether a character is white space. -/
def isBlank (c : Char) : Bool :=
  blankRanges.any fun (first, last) => first ≤ c.toNat && c.toNat ≤ last

/-- Without the white space at its start. -/
def trimStart (text : List Char) : List Char := text.dropWhile isBlank

/-- Without the white space at its end. -/
def trimEnd (text : List Char) : List Char := (text.reverse.dropWhile isBlank).reverse

/-- Without the white space at either end. -/
def trim (text : List Char) : List Char := trimEnd (trimStart text)

end SeriesPlot.Text
