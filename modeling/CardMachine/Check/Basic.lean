import CardMachine.Check.Problem
import CardMachine.Check.Reach

/-! # Checking programs

`Program.problems` lists what is wrong with a program: first the alphabet, the entry state and the
halting state, then card by card, last the states that cannot be reached. Cards are checked for the
symbols of the alphabet they lack, those they read besides, those they write undeclared, and the
next states they name. The card of the halting state, which is a problem itself, is not checked. -/

namespace CardMachine.Program

/-- A problem with a list of culprits, if there are any. -/
def blame {α : Type} (f : List α → Problem) (culprits : List α) : List Problem :=
  if culprits.isEmpty then [] else [f culprits]

/-- Whether a run may go to the state: it is the halting state or has a card. -/
def defines (p : Program) (state : StateId) : Bool := state == p.halt || (p.card? state).isSome

/-! ### Problems -/

/-- The alphabet must not be empty. -/
def alphabetProblems (p : Program) : List Problem :=
  if p.alphabet.isEmpty then [.emptyAlphabet] else []

/-- The entry state must have a card or be the halting state. -/
def entryProblems (p : Program) : List Problem :=
  if p.defines p.entry then [] else [.invalidEntry p.entry]

/-- The halting state has no card, and only the halting state has a placeholder. -/
def haltProblems (p : Program) : List Problem :=
  p.states.entries.flatMap fun e =>
    match e.2 with
    | .executable _ => if e.1 = p.halt then [.haltingStateHasCard e.1] else []
    | .halting => if e.1 = p.halt then [] else [.strayHaltingState e.1]

/-- The actions of a card that go to undefined states. -/
def nextProblems (p : Program) (state : StateId) (card : Card) : List Problem :=
  card.entries.filterMap fun a =>
    if p.defines a.2.next then none else some (.undefinedNext state a.1 a.2.next)

/-- What is wrong with the card of a state. -/
def cardProblems (p : Program) (state : StateId) (card : Card) : List Problem :=
  blame (.missingSymbols state) (p.alphabet.toList.filter fun c => !card.contains c) ++
    blame (.undeclaredSymbols state) (card.keys.filter fun c => !p.alphabet.contains c) ++
    blame (.undeclaredWrites state)
      (KeySet.ofList
        ((card.entries.map fun a => a.2.write).filter fun c => !p.declares c)).toList ++
    p.nextProblems state card

/-- What is wrong with a program. -/
def problems (p : Program) : List Problem :=
  p.alphabetProblems ++ p.entryProblems ++ p.haltProblems ++
    (p.cards.filter fun e => e.1 ≠ p.halt).flatMap (fun e => p.cardProblems e.1 e.2) ++
    blame .unreachableStates p.unreachable

end CardMachine.Program
