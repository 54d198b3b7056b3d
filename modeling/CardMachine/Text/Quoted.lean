import CardMachine.Text.Printable

/-! # Symbols in messages

A message shows a symbol in single quotes. What cannot be shown as it stands is written as an
escape: a few by name, the others by their code point in hexadecimal. -/

namespace CardMachine.Text

/-- A symbol as it stands between quotes. -/
def escaped (c : Char) : String :=
  if c = '\x00' then "\\0"
  else if c = '\t' then "\\t"
  else if c = '\n' then "\\n"
  else if c = '\r' then "\\r"
  else if c = '\'' then "\\'"
  else if c = '\\' then "\\\\"
  else if isPrintable c then String.singleton c
  else "\\u\x7b" ++ String.ofList (Nat.toDigits 16 c.toNat) ++ "\x7d"

/-- A symbol in quotes. -/
def quoted (c : Char) : String := "'" ++ escaped c ++ "'"

/-- A list as it stands in messages. -/
def bracketed (items : List String) : String := "[" ++ ", ".intercalate items ++ "]"

end CardMachine.Text
