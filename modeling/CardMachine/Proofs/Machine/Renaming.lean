import CardMachine.Proofs.KeyMap
import CardMachine.Proofs.Machine.Simulation
import Mathlib.Logic.Embedding.Basic

/-! # Other symbols and other numbers of states

The symbols of a program and of its tape may be exchanged for others, and its states numbered anew.
The maps of the program then have other keys in another order, but under each new key they have what
they had under the old one (`get?_card`, `card?_program`), so what is due in a renamed configuration
is the renamed action, and nothing is due for the renamed reason (`agrees_program`).

So a renamed program has the renamed run: no symbol, be it the blank or the mark of an error, and no
number of a state has a meaning of its own. -/

namespace CardMachine

/-- New symbols for the old ones, and new numbers for the states, no two of which become one. -/
structure Renaming where
  symbol : Equiv.Perm Symbol
  state : StateId ↪ StateId

namespace Renaming

variable (ρ : Renaming)

/-! ### What is renamed -/

/-- An action with the symbol it writes and the state it goes to renamed. -/
def action (a : Action) : Action where
  write := ρ.symbol a.write
  step := a.step
  next := ρ.state a.next

/-- A card with the symbols it reads and its actions renamed. -/
def card (card : Card) : Card := card.mapKeys ρ.symbol ρ.action

/-- An entry of the state table with its card renamed. -/
def entry : State → State
  | .halting => .halting
  | .executable card => .executable (ρ.card card)

/-- A program with its symbols and states renamed. Its name and its own tape stay; a run looks at
neither. -/
def program (p : Program) : Program :=
  { p with
    alphabet := p.alphabet.mapKeys ρ.symbol id
    markers := p.markers.mapKeys ρ.symbol id
    entry := ρ.state p.entry
    halt := ρ.state p.halt
    states := p.states.mapKeys ρ.state ρ.entry }

/-- A failure with the symbol or the state in it renamed. -/
def error : RunError → RunError
  | .undefinedSymbol symbol cell => .undefinedSymbol (ρ.symbol symbol) cell
  | .unknownState state => .unknownState (ρ.state state)
  | .outOfBounds head length => .outOfBounds head length

/-- Tapes, states and failures renamed. -/
def view : View where
  tape := List.map ρ.symbol
  state := ρ.state
  error := ρ.error
  state_injective := ρ.state.injective

/-! ### One transition -/

variable {ρ} {p : Program} {c : Config}

theorem get?_card (card : Card) (x : Symbol) :
    (ρ.card card).get? (ρ.symbol x) = (card.get? x).map ρ.action :=
  KeyMap.get?_mapKeys (fun _ _ h => ρ.symbol.injective h) ρ.action card x

theorem card?_entry (s : State) : (ρ.entry s).card? = s.card?.map ρ.card := by
  cases s <;> rfl

theorem card?_program (p : Program) (id : StateId) :
    (ρ.program p).card? (ρ.state id) = (p.card? id).map ρ.card := by
  have hget : (ρ.program p).states.get? (ρ.state id) = (p.states.get? id).map ρ.entry :=
    KeyMap.get?_mapKeys (fun _ _ h => ρ.state.injective h) ρ.entry p.states id
  unfold Program.card?
  rw [hget]
  cases p.states.get? id with
  | none => rfl
  | some s => exact card?_entry s

theorem size_view : (ρ.view.config c).tape.size = c.tape.size := by
  simp [View.config, view]

theorem index?_view :
    Head.index? (ρ.view.config c).head (ρ.view.config c).tape.size =
      Head.index? c.head c.tape.size := by
  rw [size_view]
  rfl

theorem getElem?_view (cell : Nat) :
    (ρ.view.config c).tape[cell]? = c.tape[cell]?.map ρ.symbol := by
  simp [View.config, view]

theorem perform_action (a : Action) (cell : Nat) :
    (ρ.action a).perform (ρ.view.config c).tape cell = ρ.view.config (a.perform c.tape cell) := by
  simp [Action.perform, View.config, view, action, List.map_set]

/-- **The transition of the renamed program is the renamed transition.** -/
theorem agrees_program (ρ : Renaming) (p : Program) (c : Config) :
    ρ.view.Agrees p (ρ.program p) c := by
  have hstate : (ρ.program p).card? (ρ.view.config c).state = (p.card? c.state).map ρ.card :=
    card?_program p c.state
  refine View.agrees_of_due_of_stuck (fun cell x a hd => ?_) fun e he => ?_
  · obtain ⟨⟨card, hc, ha⟩, hi, hs⟩ := hd
    have hcard : ∃ card', (ρ.program p).card? (ρ.view.config c).state = some card' ∧
        card'.get? (ρ.symbol x) = some (ρ.action a) :=
      ⟨ρ.card card, by rw [hstate, hc]; rfl, by rw [get?_card, ha]; rfl⟩
    have hsymbol : (ρ.view.config c).tape[cell]? = some (ρ.symbol x) := by
      rw [getElem?_view, hs]
      rfl
    exact ⟨_, _, ⟨hcard, index?_view.trans hi, hsymbol⟩, perform_action a cell⟩
  · cases he with
    | unknownState hc => exact .unknownState (by rw [hstate, hc]; rfl)
    | outOfBounds card hc hi =>
      have hoff : (ρ.program p).Stuck (ρ.view.config c) _ :=
        .outOfBounds (ρ.card card) (by rw [hstate, hc]; rfl) (index?_view.trans hi)
      rw [size_view] at hoff
      exact hoff
    | undefinedSymbol card cell x hc hi hs ha =>
      exact .undefinedSymbol (ρ.card card) cell (ρ.symbol x) (by rw [hstate, hc]; rfl)
        (index?_view.trans hi) (by rw [getElem?_view, hs]; rfl) (by rw [get?_card, ha]; rfl)

end Renaming

/-! ### Whole runs -/

/-- **No symbol and no number of a state has a meaning of its own**: a renamed program on the
renamed tape, from the renamed states, has the renamed run. The head and the number of steps are the
same, at the end and in each snapshot; tape, state and failure are renamed. -/
theorem Program.watch_rename (ρ : Renaming) (p : Program) (tape : List Symbol) (head : Int64)
    (entry halt : StateId) (budget : UInt64) :
    let r := ρ.view.result (p.run tape head entry halt budget)
    let seen := (p.watch tape head entry halt budget).2.map ρ.view.snapshot
    (ρ.program p).watch (tape.map ρ.symbol) head (ρ.state entry) (ρ.state halt) budget =
      (r, seen) ∧
    ∀ (σ : Type) (see : σ → Snapshot → σ) (s : σ),
      (ρ.program p).runWith (tape.map ρ.symbol) head (ρ.state entry) (ρ.state halt) budget see s =
        (r, seen.foldl see s) :=
  ρ.view.watch_eq p (ρ.program p) tape head entry halt budget fun c _ => ρ.agrees_program p c

end CardMachine
