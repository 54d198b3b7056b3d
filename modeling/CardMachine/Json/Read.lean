import CardMachine.Json.Basic
import CardMachine.Machine.Run
import CardMachine.Text.Decimal

/-! # Programs and results from JSON

The inverse of the forms in `Json.Forms`, with some freedom: fields may come in any order, other
fields are ignored, sets may be unordered and repeat members, and a program without `input` has
none. A record that stands by itself may also be the array of its parts in order; the named parts of
an alternative are always the fields of an object. An alternative without parts may be an object
whose only field is null.

Numbers must be integers in the range of their part. As the key of a map a number is spelled as it
is written, without leading zeros. -/

namespace CardMachine

namespace Json

/-! ### Numbers, characters and strings -/

/-- A 32-bit word. -/
def word32? : Json → Option UInt32
  | int (.ofNat n) => Text.word32? n
  | _ => none

/-- A 64-bit word. -/
def word64? : Json → Option UInt64
  | int (.ofNat n) => Text.word64? n
  | _ => none

/-- A signed 64-bit word. -/
def signed64? : Json → Option Int64
  | int i => Text.signed64? i
  | _ => none

/-- A string. -/
def str? : Json → Option String
  | str s => some s
  | _ => none

/-- The character of a string of length one. -/
def charOfString? (s : String) : Option Char :=
  match s.toList with
  | [c] => some c
  | _ => none

/-- A character, as a string of length one. -/
def char? : Json → Option Char
  | str s => charOfString? s
  | _ => none

/-- A number spelled in decimal without leading zeros. -/
def word32OfKey? (s : String) : Option UInt32 :=
  let digits := s.toList
  let n := Text.decimalValue digits
  if !digits.isEmpty && digits.all Char.isDigit && Text.decimal n == digits then Text.word32? n
  else none

/-! ### Composites -/

/-- The items of an array. -/
def items? {α : Type} (item? : Json → Option α) : Json → Option (List α)
  | arr items => items.mapM item?
  | _ => none

/-- The entries of an object. -/
def entries? {κ α : Type} (key? : String → Option κ) (value? : Json → Option α) :
    Json → Option (List (κ × α))
  | obj fields => fields.mapM fun f => do return (← key? f.1, ← value? f.2)
  | _ => none

/-- The fields of an object, given by their names. A field that is not there is none. -/
def fields? (names : List String) : Json → Option (List (Option Json))
  | obj fields => some (names.map (field? fields))
  | _ => none

/-- The parts of a record, given by their names: the fields of an object, or the items of an array
that has as many. -/
def parts? (names : List String) : Json → Option (List (Option Json))
  | arr items => if items.length = names.length then some (items.map some) else none
  | v => fields? names v

/-- The name and the content of an alternative. -/
def alternative? : Json → Option (String × Option Json)
  | str name => some (name, none)
  | obj [(name, content)] => some (name, some content)
  | _ => none

/-- Whether an alternative has no parts. -/
def isBare : Option Json → Bool
  | none => true
  | some null => true
  | some _ => false

end Json

open Json

/-! ### The forms -/

/-- An action from its form. -/
def Action.ofJson? (v : Json) : Option Action := do
  match ← parts? ["write", "step", "next_state"] v with
  | [some write, some step, some next] =>
    return { write := ← char? write, step := ← signed64? step, next := ← word32? next }
  | _ => none

/-- A card from its form. -/
def Card.ofJson? (v : Json) : Option Card := do
  match ← parts? ["actions"] v with
  | [some actions] => return KeyMap.ofList (← entries? charOfString? Action.ofJson? actions)
  | _ => none

/-- A state from its form. -/
def State.ofJson? (v : Json) : Option State := do
  match ← alternative? v with
  | ("Halting", content) => if isBare content then some .halting else none
  | ("Executable", some content) => return .executable (← Card.ofJson? content)
  | _ => none

/-- A preset from its form. -/
def Preset.ofJson? (v : Json) : Option Preset := do
  match ← parts? ["name", "cells", "head"] v with
  | [some name, some cells, some head] =>
    return { name := ← str? name, cells := ← items? char? cells, head := ← word64? head }
  | _ => none

/-- The tape of a program; null and nothing are no tape. -/
def Preset.ofJsonOrNull? : Option Json → Option (Option Preset)
  | none => some none
  | some .null => some none
  | some v => (Preset.ofJson? v).map some

/-- A program from its form. -/
def Program.ofJson? (v : Json) : Option Program := do
  let names := ["name", "alphabet", "markers", "entry_state", "halt_state", "states", "input"]
  match ← parts? names v with
  | [some name, some alphabet, some markers, some entry, some halt, some states, input] =>
    return {
      name := ← str? name
      alphabet := KeySet.ofList (← items? char? alphabet)
      markers := KeySet.ofList (← items? char? markers)
      entry := ← word32? entry
      halt := ← word32? halt
      states := KeyMap.ofList (← entries? word32OfKey? State.ofJson? states)
      input := ← Preset.ofJsonOrNull? input }
  | _ => none

/-- A failure from its form. -/
def RunError.ofJson? (v : Json) : Option RunError := do
  match ← alternative? v with
  | ("UndefinedSymbol", some content) =>
    match ← fields? ["symbol", "head"] content with
    | [some symbol, some cell] => return .undefinedSymbol (← char? symbol) (← word64? cell)
    | _ => none
  | ("UnknownState", some state) => return .unknownState (← word32? state)
  | ("OutOfBounds", some content) =>
    match ← fields? ["head", "len"] content with
    | [some head, some length] => return .outOfBounds (← signed64? head) (← word64? length)
    | _ => none
  | _ => none

/-- A termination from its form. -/
def Termination.ofJson? (v : Json) : Option Termination := do
  match ← alternative? v with
  | ("Halted", content) => if isBare content then some .halted else none
  | ("BudgetExhausted", content) => if isBare content then some .budgetExhausted else none
  | ("Failed", some error) => return .failed (← RunError.ofJson? error)
  | _ => none

/-- A result from its form. -/
def RunResult.ofJson? (v : Json) : Option RunResult := do
  match ← parts? ["final_tape", "final_head", "final_state", "steps_taken", "termination"] v with
  | [some tape, some head, some state, some steps, some termination] =>
    return {
      tape := ← items? char? tape
      head := ← signed64? head
      state := ← word32? state
      steps := ← word64? steps
      termination := ← Termination.ofJson? termination }
  | _ => none

end CardMachine
