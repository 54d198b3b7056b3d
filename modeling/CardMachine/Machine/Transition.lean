import CardMachine.Program

/-! # The single transition

A configuration is a tape, a head position and a state. A transition reads the cell under the head,
takes the action of the state's card for it, writes, moves and changes state. It fails if the state
has no card, the head is off the tape or the card has no action for the symbol, found out in this
order; a failure leaves nothing behind.

What to do is found out first (`Program.due`) and done then (`Action.perform`), and the tape of a
configuration is an array, so a transition writes one cell and leaves the others where they are.

The head stands at a signed 64-bit position, which need not be on the tape. A step is a signed
64-bit displacement. A move whose end is out of range stops at the last position in range, so a
head that ran out of range is never on a tape. -/

namespace CardMachine

/-! ### Head positions -/

namespace Head

/-- The position of a cell. A cell past the last position in range counts as that position. -/
def ofIndex (i : Nat) : Int64 := Int64.ofIntClamp i

/-- The position one step away, kept in range. -/
def move (head step : Int64) : Int64 := Int64.ofIntClamp (head.toInt + step.toInt)

/-- The cell under the head of a tape with `length` cells, if the head is on the tape. -/
def index? (head : Int64) (length : Nat) : Option Nat :=
  if 0 ≤ head.toInt ∧ head.toInt < length then some head.toInt.toNat else none

end Head

/-! ### Transitions -/

/-- Why a transition cannot be taken. -/
inductive RunError where
  /-- The card has no action for the symbol in the cell. -/
  | undefinedSymbol (symbol : Symbol) (cell : UInt64)
  /-- The state has no card. -/
  | unknownState (state : StateId)
  /-- The head is off a tape of that length. -/
  | outOfBounds (head : Int64) (length : UInt64)
  deriving DecidableEq

/-- What a transition acts on. -/
structure Config where
  tape : Array Symbol
  head : Int64
  state : StateId
  deriving DecidableEq

/-- The action of a card for the symbol in a cell of the tape. -/
def Card.action (card : Card) (tape : Array Symbol) (cell : Nat) : Except RunError Action :=
  match tape[cell]? with
  | none => .error (.outOfBounds (Head.ofIndex cell) (.ofNat tape.size))
  | some scanned =>
    match card.get? scanned with
    | none => .error (.undefinedSymbol scanned (.ofNat cell))
    | some action => .ok action

/-- Writes to a cell of the tape, moves the head away from it and changes state. -/
def Action.perform (action : Action) (tape : Array Symbol) (cell : Nat) : Config where
  tape := tape.setIfInBounds cell action.write
  head := Head.move (Head.ofIndex cell) action.step
  state := action.next

/-- Takes the action of a card for the symbol in a cell of the tape. -/
def Card.apply (card : Card) (tape : Array Symbol) (cell : Nat) : Except RunError Config :=
  match card.action tape cell with
  | .ok action => .ok (action.perform tape cell)
  | .error e => .error e

/-- The cell under the head with the action that is due there. -/
def Program.due (p : Program) (c : Config) : Except RunError (Nat × Action) :=
  match p.card? c.state with
  | none => .error (.unknownState c.state)
  | some card =>
    match Head.index? c.head c.tape.size with
    | none => .error (.outOfBounds c.head (.ofNat c.tape.size))
    | some cell =>
      match card.action c.tape cell with
      | .ok action => .ok (cell, action)
      | .error e => .error e

/-- The configuration after one transition. -/
def Program.transition (p : Program) (c : Config) : Except RunError Config :=
  match p.due c with
  | .ok (cell, action) => .ok (action.perform c.tape cell)
  | .error e => .error e

end CardMachine
