import CardMachine.Grammar.Cursor
import CardMachine.Program

/-! # What a text says

Reading a text and making sense of it are two steps. In between stands the document: the
declarations of the text in their order, with numbers of any size and with the places they were
read from. -/

namespace CardMachine.Format

open Grammar (Located)

/-- The kinds of declarations of a program. -/
inductive Kind where
  | name | alphabet | markers | entry | halt | tape | head | cards
  deriving DecidableEq

/-- The word that starts a declaration. -/
def Kind.keyword : Kind → String
  | name => "name"
  | alphabet => "alphabet"
  | markers => "markers"
  | entry => "entry"
  | halt => "halt"
  | tape => "tape"
  | head => "head"
  | cards => "cards"

/-- All kinds. -/
def Kind.all : List Kind := [name, alphabet, markers, entry, halt, tape, head, cards]

/-- The line of an action. -/
structure ActionLine where
  read : Symbol
  write : Symbol
  step : Located Int
  next : Located Nat

/-- The header of a card and its action lines. -/
structure CardLines where
  id : Located Nat
  actions : List (Located ActionLine)

/-- A declaration of a program. -/
inductive Declaration where
  | name (text : List Char)
  | alphabet (symbols : List Symbol)
  | markers (symbols : List Symbol)
  | entry (id : Located Nat)
  | halt (id : Located Nat)
  | tape (symbols : List Symbol)
  | head (index : Located Nat)
  | cards (cards : List (Located CardLines))

/-- The kind of a declaration. -/
def Declaration.kind : Declaration → Kind
  | name _ => .name
  | alphabet _ => .alphabet
  | markers _ => .markers
  | entry _ => .entry
  | halt _ => .halt
  | tape _ => .tape
  | head _ => .head
  | cards _ => .cards

/-- The text of a program. -/
abbrev Document := List (Located Declaration)

/-- The line of a preset. -/
structure PresetLine where
  name : List Char
  head : Located Nat
  cells : List Symbol

end CardMachine.Format
