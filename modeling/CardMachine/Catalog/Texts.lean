/-! # Texts of the built-in programs and presets

The texts that the built-in catalog is read from. -/

namespace CardMachine.Catalog

/-! ### Programs -/

def trailingBlankText : String := "# Walks right over a run of 1s and blanks the first 0 after it.
name: Trailing blank
alphabet: _, 0, 1
tape: 0, 0, 0, 0, 0, 0, 0, 0, 0, 0, 0, 0, 0, 0, 0, _, 1, 1, 0, 0, 0, 0, 0, 0, 0, 0, 0, 0, 0, 0
head: 15
cards:
  0:
  1:
    _ -> _, +1, 1
    0 -> _, 0, 0
    1 -> 1, +1, 1
"

def incrementText : String := "# Adds one to a binary number enclosed in blanks, starting on the left blank.
name: Binary increment
alphabet: _, 0, 1
markers: E
tape: _, 1, 0, 0, 0, _, 0, 0, 0, 0, 0, 0, 0, 0, 0
head: 0
cards:
  0:
  1:
    _ -> _, +1, 2
    0 -> E, 0, 0
    1 -> E, 0, 0
  2:
    _ -> _, -1, 3
    0 -> 0, +1, 2
    1 -> 1, +1, 2
  3:
    _ -> 1, 0, 0
    0 -> 1, 0, 0
    1 -> 0, -1, 3
"

def bitwiseNotText : String := "# Flips every bit of a binary number enclosed in blanks.
name: Bitwise NOT
alphabet: _, 0, 1
markers: E
tape: _, 1, 0, 0, 0, _, 0, 0, 0, 0, 0, 0, 0, 0, 0
head: 0
cards:
  0:
  1:
    _ -> _, +1, 2
    0 -> E, 0, 0
    1 -> E, 0, 0
  2:
    _ -> _, 0, 0
    0 -> 1, +1, 2
    1 -> 0, +1, 2
"

def andGateText : String := "# ANDs the two bits after the left blank; the result lands two cells after the second bit.
name: AND gate
alphabet: _, 0, 1
markers: E
tape: _, 1, 1, _, _, _, 0, 0, 0, 0, 0, 0, 0, 0, 0
head: 0
cards:
  0:
  1:
    _ -> _, +1, 2
    0 -> E, 0, 0
    1 -> E, 0, 0
  2:
    _ -> E, 0, 0
    0 -> 0, +3, 3
    1 -> 1, +1, 4
  3:
    _ -> 0, 0, 0
    0 -> E, 0, 0
    1 -> E, 0, 0
  4:
    _ -> E, 0, 0
    0 -> 0, +2, 3
    1 -> 1, +2, 5
  5:
    _ -> 1, 0, 0
    0 -> E, 0, 0
    1 -> E, 0, 0
"

def orGateText : String := "# ORs the two bits after the left blank; the result lands two cells after the second bit.
name: OR gate
alphabet: _, 0, 1
markers: E
tape: _, 1, 1, _, _, _, 0, 0, 0, 0, 0, 0, 0, 0, 0
head: 0
cards:
  0:
  1:
    _ -> _, +1, 2
    0 -> E, 0, 0
    1 -> E, 0, 0
  2:
    _ -> E, 0, 0
    0 -> 0, +1, 3
    1 -> 1, +3, 5
  3:
    _ -> E, 0, 0
    0 -> 0, +2, 4
    1 -> 1, +2, 5
  4:
    _ -> 0, 0, 0
    0 -> E, 0, 0
    1 -> E, 0, 0
  5:
    _ -> 1, 0, 0
    0 -> E, 0, 0
    1 -> E, 0, 0
"

def xorGateText : String := "# XORs the two bits after the left blank; the result lands two cells after the second bit.
name: XOR gate
alphabet: _, 0, 1
markers: E
tape: _, 1, 1, _, _, _, 0, 0, 0, 0, 0, 0, 0, 0, 0
head: 0
cards:
  0:
  1:
    _ -> _, +1, 2
    0 -> E, 0, 0
    1 -> E, 0, 0
  2:
    _ -> E, 0, 0
    0 -> 0, +1, 3
    1 -> 1, +1, 4
  3:
    _ -> E, 0, 0
    0 -> 0, +2, 5
    1 -> 1, +2, 6
  4:
    _ -> E, 0, 0
    0 -> 0, +2, 6
    1 -> 1, +2, 5
  5:
    _ -> 0, 0, 0
    0 -> E, 0, 0
    1 -> E, 0, 0
  6:
    _ -> 1, 0, 0
    0 -> E, 0, 0
    1 -> E, 0, 0
"

def copyWordText : String := "# Copies a 4-bit word five cells to the right.
name: Copy word
alphabet: _, 0, 1
markers: E
tape: _, 1, 0, 0, 0, _, _, _, _, _, _, 0, 0, 0, 0
head: 0
cards:
  0:
  1:
    _ -> _, +1, 2
    0 -> E, 0, 0
    1 -> E, 0, 0
  2:
    _ -> _, 0, 0
    0 -> 0, +5, 3
    1 -> 1, +5, 4
  3:
    _ -> 0, -4, 2
    0 -> E, 0, 0
    1 -> E, 0, 0
  4:
    _ -> 1, -4, 2
    0 -> E, 0, 0
    1 -> E, 0, 0
"

def unaryAdditionText : String := "# Adds two unary numbers separated by one blank: fills the gap and blanks the last 1.
name: Unary addition
alphabet: _, 0, 1
markers: E
tape: _, 1, 1, 1, 1, _, 1, 1, 1, 1, 1, _, 0, 0, 0
head: 0
cards:
  0:
  1:
    _ -> _, +1, 2
    0 -> E, 0, 0
    1 -> E, 0, 0
  2:
    _ -> 1, +1, 3
    0 -> E, 0, 0
    1 -> 1, +1, 2
  3:
    _ -> _, -1, 4
    0 -> E, 0, 0
    1 -> 1, +1, 3
  4:
    _ -> E, 0, 0
    0 -> E, 0, 0
    1 -> _, 0, 0
"

def decrementText : String := "# Subtracts one from a binary number enclosed in blanks; marks E when the number is zero.
name: Binary decrement
alphabet: _, 0, 1
markers: E
tape: _, 1, 0, 0, 0, _, 0, 0, 0, 0, 0, 0, 0, 0, 0
head: 0
cards:
  0:
  1:
    _ -> _, +1, 2
    0 -> E, 0, 0
    1 -> E, 0, 0
  2:
    _ -> _, -1, 3
    0 -> 0, +1, 2
    1 -> 1, +1, 2
  3:
    _ -> E, 0, 0
    0 -> 1, -1, 3
    1 -> 0, 0, 0
"

def wordEqualityText : String := "# Compares two 2-bit words separated by a blank; writes 1 when equal, 0 otherwise.
name: Word equality
alphabet: _, 0, 1
markers: E
tape: _, 0, 0, _, 1, 0, _, _, _, 0
head: 0
cards:
  0:
  1:
    _ -> _, +1, 2
    0 -> E, 0, 0
    1 -> E, 0, 0
  2:
    _ -> E, 0, 0
    0 -> 0, +3, 3
    1 -> 1, +3, 4
  3:
    _ -> E, 0, 0
    0 -> 0, -2, 5
    1 -> 1, +3, 8
  4:
    _ -> E, 0, 0
    0 -> 0, +3, 8
    1 -> 1, -2, 5
  5:
    _ -> E, 0, 0
    0 -> 0, +3, 6
    1 -> 1, +3, 7
  6:
    _ -> E, 0, 0
    0 -> 0, +2, 9
    1 -> 1, +2, 8
  7:
    _ -> E, 0, 0
    0 -> 0, +2, 8
    1 -> 1, +2, 9
  8:
    _ -> 0, 0, 0
    0 -> E, 0, 0
    1 -> E, 0, 0
  9:
    _ -> 1, 0, 0
    0 -> E, 0, 0
    1 -> E, 0, 0
"

/-- The texts of the built-in programs. -/
def programTexts : List String :=
  [trailingBlankText, incrementText, bitwiseNotText, andGateText,
    orGateText, xorGateText, copyWordText, unaryAdditionText,
    decrementText, wordEqualityText]

/-! ### Presets -/

/-- The text of the built-in presets. -/
def presetsText : String := "# name @ head: cells
ones-run @ 15: 0, 0, 0, 0, 0, 0, 0, 0, 0, 0, 0, 0, 0, 0, 0, _, 1, 1, 0, 0, 0, 0, 0, 0, 0, 0, 0, 0, 0, 0
ones-line @ 0: _, 1, 1, 1, 1, 0, 0, 0, 0, 0, 0, 0, 0, 0, 0
binary-word @ 0: _, 1, 0, 0, 0, _, 0, 0, 0, 0, 0, 0, 0, 0, 0
bit-pair @ 0: _, 1, 1, _, _, _, 0, 0, 0, 0, 0, 0, 0, 0, 0
copy-word @ 0: _, 1, 0, 0, 0, _, _, _, _, _, _, 0, 0, 0, 0
unary-pair @ 0: _, 1, 1, 1, 1, _, 1, 1, 1, 1, 1, _, 0, 0, 0
word-pair @ 0: _, 0, 0, _, 1, 0, _, _, _, 0
"

end CardMachine.Catalog
