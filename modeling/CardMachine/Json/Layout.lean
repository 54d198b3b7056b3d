import CardMachine.Json.Basic
import CardMachine.Text.Excerpt

/-! # JSON as text

One item or field on a line, indented by two blanks a level; an empty array or object on one line.
In strings only quotes, backslashes and the control characters below the blank are escaped. -/

namespace CardMachine.Json

/-- A hexadecimal number with four digits. -/
def hex4 (n : Nat) : String :=
  let digits := Nat.toDigits 16 n
  String.ofList (List.replicate (4 - digits.length) '0' ++ digits)

/-- A character inside a string. -/
def escape (c : Char) : String :=
  if c = '"' then "\\\""
  else if c = '\\' then "\\\\"
  else if c = '\n' then "\\n"
  else if c = '\r' then "\\r"
  else if c = '\t' then "\\t"
  else if c.toNat = 0x8 then "\\b"
  else if c.toNat = 0xC then "\\f"
  else if c.toNat < 0x20 then "\\u" ++ hex4 c.toNat
  else String.singleton c

/-- A string in quotes. -/
def quote (s : String) : String := "\"" ++ String.join (s.toList.map escape) ++ "\""

/-- The indentation of a level. -/
def indent (level : Nat) : String := "\n" ++ Text.blanks (2 * level)

/-- Items between brackets, each on a line of its own. -/
def enclose (opening closing : String) (level : Nat) (items : List String) : String :=
  if items.isEmpty then opening ++ closing
  else opening ++ ",".intercalate (items.map (indent (level + 1) ++ ·)) ++ indent level ++ closing

mutual

/-- A value at a level of indentation. -/
def layoutAt (level : Nat) : Json → String
  | null => "null"
  | bool b => if b then "true" else "false"
  | int i => toString i
  | real spelling => spelling
  | str s => quote s
  | arr items => enclose "[" "]" level (layoutItems (level + 1) items)
  | obj fields => enclose "\x7b" "\x7d" level (layoutFields (level + 1) fields)

/-- The items of an array. -/
def layoutItems (level : Nat) : List Json → List String
  | [] => []
  | v :: l => layoutAt level v :: layoutItems level l

/-- The fields of an object. -/
def layoutFields (level : Nat) : List (String × Json) → List String
  | [] => []
  | (name, v) :: l => (quote name ++ ": " ++ layoutAt level v) :: layoutFields level l

end

/-- The text of a value. -/
def layout (v : Json) : String := layoutAt 0 v

end CardMachine.Json
