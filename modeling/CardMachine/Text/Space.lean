/-! # White space

A class of characters is a list of inclusive ranges of code points. White space is the class of
Unicode's property `White_Space`. Texts are trimmed of it at both ends. Most of it does not end a
line: only a line feed and a carriage return do. -/

namespace CardMachine.Text

/-- Inclusive ranges of code points. -/
abbrev CharClass := List (Nat × Nat)

/-- Whether the code point of a character is in one of the ranges. -/
def CharClass.contains (ranges : CharClass) (c : Char) : Bool :=
  ranges.any fun r => r.1 ≤ c.toNat && c.toNat ≤ r.2

/-- The property `White_Space`. -/
def spaces : CharClass :=
  [(0x9, 0xD), (0x20, 0x20), (0x85, 0x85), (0xA0, 0xA0), (0x1680, 0x1680), (0x2000, 0x200A),
    (0x2028, 0x2029), (0x202F, 0x202F), (0x205F, 0x205F), (0x3000, 0x3000)]

/-- Whether a character is white space. -/
def isSpace (c : Char) : Bool := spaces.contains c

/-- The control characters. -/
def controls : CharClass := [(0x0, 0x1F), (0x7F, 0x9F)]

/-- Whether a character is a control character. -/
def isControl (c : Char) : Bool := controls.contains c

/-- Whether a character ends a line. -/
def isLineEnd (c : Char) : Bool := c == '\n' || c == '\r'

/-- The text without the white space at its end. -/
def trimRight (s : List Char) : List Char := (s.reverse.dropWhile isSpace).reverse

/-- The text without the white space at its ends. -/
def trim (s : List Char) : List Char := trimRight (s.dropWhile isSpace)

end CardMachine.Text
