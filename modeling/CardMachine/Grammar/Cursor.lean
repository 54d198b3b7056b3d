import CardMachine.Text.Space

/-! # Places in a text

A cursor is what is left of a text and how many characters came before. Characters are counted, so
a position is the number of characters before it.

Between the words of a line there may be blanks, and a comment, which runs from `#` to the end of
the line. `Cursor.skipGap` passes over both. -/

namespace CardMachine.Grammar

open Text (isLineEnd)

/-- The part of a text from `start` up to but not including `stop`. -/
structure Span where
  start : Nat
  stop : Nat
  deriving DecidableEq

/-- Something read, with the part of the text it was read from. -/
structure Located (α : Type) where
  value : α
  span : Span

/-- What is left of a text after `pos` characters. -/
structure Cursor where
  pos : Nat
  rest : List Char

/-- Whether a character separates the words of a line. -/
def isBlank (c : Char) : Bool := c == ' ' || c == '\t'

namespace Cursor

/-- Passes over `n` characters. -/
def skip (c : Cursor) (n : Nat) : Cursor := ⟨c.pos + n, c.rest.drop n⟩

/-- Passes over the characters that satisfy `p`. -/
def skipWhile (p : Char → Bool) (c : Cursor) : Cursor :=
  ⟨c.pos + (c.rest.takeWhile p).length, c.rest.dropWhile p⟩

/-- Passes over blanks and a comment. -/
def skipGap (c : Cursor) : Cursor :=
  let c := c.skipWhile isBlank
  match c.rest with
  | '#' :: _ => c.skipWhile fun x => !isLineEnd x
  | _ => c

end Cursor

end CardMachine.Grammar
