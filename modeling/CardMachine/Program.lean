import CardMachine.KeyMap

/-! # Card programs

A program is a table of states. Each executable state has a card, which says for a symbol under the
head what to write, how far to move and which state comes next. The halting state has no card; it
may stand in the table as a placeholder.

A program also declares the alphabet its cards read, the markers they may write without reading
them back, and possibly a tape of its own. -/

namespace CardMachine

/-- The content of one cell. -/
abbrev Symbol := Char

/-- The number of a state. -/
abbrev StateId := UInt32

/-- What to do on a symbol: write, move the head, go to a state. -/
structure Action where
  write : Symbol
  step : Int64
  next : StateId
  deriving DecidableEq

/-- The actions of one state, by the symbol read. -/
abbrev Card := KeyMap Symbol Action

/-- An entry of the state table: the placeholder of the halting state, or a card. -/
inductive State where
  | halting
  | executable (card : Card)
  deriving DecidableEq

/-- The card of an executable state. -/
def State.card? : State → Option Card
  | halting => none
  | executable card => some card

/-- A named tape with a starting position. -/
structure Preset where
  name : String
  cells : List Symbol
  head : UInt64
  deriving DecidableEq

/-- A card program. -/
structure Program where
  name : String
  /-- The symbols that may come under the head. -/
  alphabet : KeySet Symbol
  /-- The symbols that may be written besides. -/
  markers : KeySet Symbol
  /-- The state a run starts in. -/
  entry : StateId
  /-- The state at which a run stops. -/
  halt : StateId
  states : KeyMap StateId State
  /-- The tape the program is meant for. -/
  input : Option Preset
  deriving DecidableEq

namespace Program

/-- The entry state of a program that names none. -/
def defaultEntry : StateId := 1

/-- The halting state of a program that names none. -/
def defaultHalt : StateId := 0

/-- The card of a state; a halting placeholder and an undeclared state have none. -/
def card? (p : Program) (id : StateId) : Option Card := (p.states.get? id).bind State.card?

/-- The executable states with their cards, in increasing order. -/
def cards (p : Program) : List (StateId × Card) :=
  p.states.entries.filterMap fun e => e.2.card?.map (e.1, ·)

/-- The number of actions on all cards. -/
def actionCount (p : Program) : Nat := p.cards.foldr (fun e n => e.2.size + n) 0

/-- Whether a cell of a tape may hold the symbol: it is in the alphabet or a marker. -/
def declares (p : Program) (c : Symbol) : Bool := p.alphabet.contains c || p.markers.contains c

end Program

end CardMachine
