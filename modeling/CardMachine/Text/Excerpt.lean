import CardMachine.Text.Place
import CardMachine.Text.Space

/-! # Excerpts

A message about a place in a text shows the line it is on, with a mark below it. A message about a
part of the text that covers several lines shows the first and the last of them.

Lines are shown without their line ends, unless the place is at one: then line ends are made
visible. -/

namespace CardMachine.Text

/-! ### Columns

Text set to a width, counted in characters. A text wider than its column is not cut. -/

/-- A number of blanks. -/
def blanks (n : Nat) : String := String.ofList (List.replicate n ' ')

/-- Fills up with blanks on the left. -/
def padLeft (width : Nat) (s : String) : String := blanks (width - s.length) ++ s

/-- Fills up with blanks on the right. -/
def padRight (width : Nat) (s : String) : String := s ++ blanks (width - s.length)

/-! ### Line ends -/

/-- A line end made visible. -/
def visible (c : Char) : Char := if c = '\r' then '␍' else if c = '\n' then '␊' else c

/-- A line without line ends. -/
def bare (line : List Char) : List Char := line.filter fun c => !isLineEnd c

/-! ### Lines of a text -/

/-- Where the line of a position starts. -/
def lineStart (text : List Char) (pos : Nat) : Nat :=
  pos - ((text.take pos).reverse.takeWhile (· ≠ '\n')).length

/-- Where the line of a position ends, its line feed included. -/
def lineStop (text : List Char) (pos : Nat) : Nat :=
  let rest := text.drop pos
  let body := (rest.takeWhile (· ≠ '\n')).length
  if body < rest.length then pos + body + 1 else pos + body

/-- The line of a position, with its line feed. -/
def lineAt (text : List Char) (pos : Nat) : List Char :=
  (text.take (lineStop text pos)).drop (lineStart text pos)

/-- The last line that a part of a text covers, if it covers more than one. -/
def lastLine? (text : List Char) (start stop : Nat) : Option (List Char) :=
  let q := lineStart text stop
  let q := if q < text.length then q else lineStart text (q - 1)
  if start < q then some (lineAt text q) else none

/-! ### Layout -/

/-- Blanks up to a column, with the tabs of the line above kept. -/
def indentation (line : List Char) (column : Nat) : String :=
  String.ofList ((line.take (column - 1)).map fun c => if c = '\t' then '\t' else ' ')

/-- The mark of a place. -/
def placeMark (line : List Char) (column : Nat) : String := indentation line column ++ "^---"

/-- The mark from one column up to another. If the second comes first the two are swapped, and
the mark reaches one column further on both sides. -/
def rangeMark (line : List Char) (first last : Nat) : String :=
  let (s, e) := if last < first then (last - 1, first + 1) else (first, last)
  let tail := if 1 < e - s then String.ofList (List.replicate (e - s - 2) '-') ++ "^" else ""
  indentation line s ++ "^" ++ tail

/-- A row of an excerpt: a line number or nothing in the margin, then what is shown. -/
structure Row where
  number : Option Nat
  shown : String

/-- The layout of an excerpt: the place, the rows, the mark and the message. The margin is as wide
as the largest line number. -/
def layout (p : Place) (rows : List Row) (mark message : String) : String :=
  let width := (toString ((rows.filterMap Row.number).foldl max 0)).length
  let margin := blanks width
  let write (r : Row) :=
    (r.number.map fun n => padLeft width (toString n)).getD margin ++ " | " ++ r.shown
  "\n".intercalate <|
    [s!"{margin}--> {p.line}:{p.column}", margin ++ " |"] ++ rows.map write ++
      [write ⟨none, mark⟩, margin ++ " |", s!"{margin} = {message}"]

/-- An excerpt around a position. -/
def excerptAt (text : List Char) (pos : Nat) (message : String) : String :=
  let p := place text pos
  let line := lineAt text pos
  let shown := if (text.drop pos).head?.any isLineEnd then line.map visible else bare line
  layout p [⟨some p.line, String.ofList shown⟩] (placeMark shown p.column) message

/-- Whether a part of a text begins or ends with a line end. -/
def touchesLineEnd (part : List Char) : Bool :=
  part.head?.any isLineEnd || part.getLast?.any isLineEnd

/-- An excerpt of a part of a text. -/
def excerptOf (text : List Char) (start stop : Nat) (message : String) : String :=
  let first := place text start
  let last := endPlace text stop
  let visibly := touchesLineEnd ((text.take stop).drop start)
  let top := lineAt text start
  let shown := if visibly then top.map visible else bare top
  let rows := match lastLine? text start stop with
    | none => []
    | some bottom =>
      (if 1 < last.line - first.line then [⟨none, "..."⟩] else []) ++
        [⟨some last.line, String.ofList (if visibly then bottom else bottom.map visible)⟩]
  layout first (⟨some first.line, String.ofList shown⟩ :: rows)
    (rangeMark shown first.column last.column) message

end CardMachine.Text
