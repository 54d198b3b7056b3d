import CardMachine.Json.Basic
import CardMachine.Machine.Run
import CardMachine.Text.Decimal

/-! # Programs and results as JSON

A record is an object with a field for each of its parts. An alternative without parts is its name;
one with parts is an object whose only field has its name. A set is an array in increasing order. A
map is an object; a state is spelled in decimal as a key, a symbol as a string of length one. -/

namespace CardMachine

open Json (ofChar)

/-- Cells as an array. -/
def Json.ofSymbols (cells : List Symbol) : Json := .arr (cells.map ofChar)

/-- An alternative with parts. -/
def Json.tagged (name : String) (content : Json) : Json := .obj [(name, content)]

/-- The form of an action. -/
def Action.toJson (a : Action) : Json :=
  .obj [("write", ofChar a.write), ("step", .int a.step.toInt), ("next_state", .int a.next.toNat)]

/-- The form of a card: its actions by the symbol read. -/
def Card.toJson (card : Card) : Json :=
  .obj [("actions", .obj (card.entries.map fun e => (String.singleton e.1, e.2.toJson)))]

/-- The form of a state. -/
def State.toJson : State → Json
  | halting => .str "Halting"
  | executable card => .tagged "Executable" (Card.toJson card)

/-- The form of a preset. -/
def Preset.toJson (p : Preset) : Json :=
  .obj [("name", .str p.name), ("cells", .ofSymbols p.cells), ("head", .int p.head.toNat)]

/-- The form of a program. -/
def Program.toJson (p : Program) : Json :=
  .obj [("name", .str p.name),
    ("alphabet", .ofSymbols p.alphabet.toList),
    ("markers", .ofSymbols p.markers.toList),
    ("entry_state", .int p.entry.toNat),
    ("halt_state", .int p.halt.toNat),
    ("states", .obj (p.states.entries.map fun e =>
      (String.ofList (Text.decimal e.1.toNat), e.2.toJson))),
    ("input", (p.input.map Preset.toJson).getD .null)]

/-- The form of a failure. -/
def RunError.toJson : RunError → Json
  | undefinedSymbol symbol cell =>
    .tagged "UndefinedSymbol" (.obj [("symbol", ofChar symbol), ("head", .int cell.toNat)])
  | unknownState state => .tagged "UnknownState" (.int state.toNat)
  | outOfBounds head length =>
    .tagged "OutOfBounds" (.obj [("head", .int head.toInt), ("len", .int length.toNat)])

/-- The form of a termination. -/
def Termination.toJson : Termination → Json
  | halted => .str "Halted"
  | budgetExhausted => .str "BudgetExhausted"
  | failed error => .tagged "Failed" error.toJson

/-- The form of a result. -/
def RunResult.toJson (r : RunResult) : Json :=
  .obj [("final_tape", .ofSymbols r.tape),
    ("final_head", .int r.head.toInt),
    ("final_state", .int r.state.toNat),
    ("steps_taken", .int r.steps.toNat),
    ("termination", r.termination.toJson)]

end CardMachine
