import CardMachine.Program

/-! # Reachable states

The states that a run can enter, if any symbol may come under the head: the entry state, and with a
state other than the halting state every next state on its card.

They are found with a list of states still to visit, of which the last found is visited first. Each
card is looked at once, so at most one state more is ever put on that list than there are actions;
this bounds the number of visits. -/

namespace CardMachine.Program

/-- The next states on the card of a state; the halting state has none. -/
def successors (p : Program) (state : StateId) : List StateId :=
  if state = p.halt then []
  else
    match p.card? state with
    | none => []
    | some card => card.entries.map fun a => a.2.next

/-- Visits the states of `queue` and those they lead to, at most `fuel` of them. -/
def visit (p : Program) : (fuel : Nat) → (queue : List StateId) → (seen : KeySet StateId) →
    KeySet StateId
  | 0, _, seen => seen
  | _ + 1, [], seen => seen
  | fuel + 1, state :: queue, seen =>
    if seen.contains state then p.visit fuel queue seen
    else
      let seen' := KeySet.add seen state
      let found := (p.successors state).filter fun next => !seen'.contains next
      p.visit fuel (found.reverse ++ queue) seen'

/-- The states that can be reached from the entry state. -/
def reachable (p : Program) : KeySet StateId := p.visit (p.actionCount + 1) [p.entry] ∅

/-- The executable states, other than the halting state, that cannot be reached. -/
def unreachable (p : Program) : List StateId :=
  let seen := p.reachable
  (p.cards.map Prod.fst).filter fun id => id ≠ p.halt ∧ !seen.contains id

end CardMachine.Program
