/-! # Lines and columns

Lines and columns count from one, columns in characters. A line ends with a line feed, with or
without a carriage return before it; a carriage return that stands alone is an ordinary character
here. Between the two characters of a line end one is still on the line. -/

namespace CardMachine.Text

/-- A line and a column. -/
structure Place where
  line : Nat
  column : Nat
  deriving DecidableEq

/-- The place `n` characters further on. -/
def Place.after : Place → List Char → Nat → Place
  | p, _, 0 => p
  | p, [], _ => p
  | p, '\r' :: '\n' :: _, 1 => { p with column := p.column + 1 }
  | p, '\r' :: '\n' :: s, n + 2 => after { line := p.line + 1, column := 1 } s n
  | p, '\n' :: s, n + 1 => after { line := p.line + 1, column := 1 } s n
  | p, _ :: s, n + 1 => after { p with column := p.column + 1 } s n

/-- The place of a position in a text. -/
def place (text : List Char) (pos : Nat) : Place := Place.after { line := 1, column := 1 } text pos

/-- The place of the end of a part of a text. An end right after a line feed is shown on the line
it ends, one column behind the line feed. -/
def endPlace (text : List Char) (pos : Nat) : Place :=
  let p := place text pos
  if p.column = 1 then
    let q := place text (pos - 1)
    { q with column := q.column + 1 }
  else p

end CardMachine.Text
