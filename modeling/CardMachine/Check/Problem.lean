import CardMachine.Program
import CardMachine.Text.Quoted

/-! # Problems of programs and tapes -/

namespace CardMachine

/-- What can be wrong with a program or a tape for it. -/
inductive Problem where
  | emptyAlphabet
  /-- The entry state has no card and is not the halting state. -/
  | invalidEntry (state : StateId)
  /-- The halting state has a card. -/
  | haltingStateHasCard (state : StateId)
  /-- A placeholder stands for a state other than the halting state. -/
  | strayHaltingState (state : StateId)
  /-- A card has no action for some symbols of the alphabet. -/
  | missingSymbols (state : StateId) (symbols : List Symbol)
  /-- A card reads symbols outside the alphabet. -/
  | undeclaredSymbols (state : StateId) (symbols : List Symbol)
  /-- A card writes symbols that are neither in the alphabet nor markers. -/
  | undeclaredWrites (state : StateId) (symbols : List Symbol)
  /-- An action goes to a state without a card that is not the halting state. -/
  | undefinedNext (state : StateId) (symbol : Symbol) (next : StateId)
  /-- No path leads from the entry state to these states. -/
  | unreachableStates (states : List StateId)
  /-- The head starts off the tape. -/
  | invalidHead (head : UInt64) (length : Nat)
  /-- The tape holds symbols that are neither in the alphabet nor markers. -/
  | invalidTapeSymbols (symbols : List Symbol)
  deriving DecidableEq

namespace Problem

/-- Symbols in a message. -/
def listSymbols (symbols : List Symbol) : String := Text.bracketed (symbols.map Text.quoted)

/-- The message of a problem. -/
def message : Problem → String
  | emptyAlphabet => "Program declares an empty alphabet"
  | invalidEntry state => s!"Invalid entry state: {state}"
  | haltingStateHasCard state => s!"Halting state {state} must not have a card"
  | strayHaltingState state =>
    s!"State {state} is a halting placeholder but is not the halting state"
  | missingSymbols state symbols =>
    s!"Card {state} has no action for symbols {listSymbols symbols}"
  | undeclaredSymbols state symbols =>
    s!"Card {state} reads undeclared symbols {listSymbols symbols}"
  | undeclaredWrites state symbols =>
    s!"Card {state} writes undeclared symbols {listSymbols symbols}"
  | undefinedNext state symbol next =>
    s!"Card {state} on {Text.quoted symbol} moves to undefined state {next}"
  | unreachableStates states =>
    s!"Unreachable states detected: {Text.bracketed (states.map toString)}"
  | invalidHead head length =>
    s!"Invalid head position {head} for a tape of length {length}"
  | invalidTapeSymbols symbols => s!"Tape contains undeclared symbols {listSymbols symbols}"

end Problem

end CardMachine
