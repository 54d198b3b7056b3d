import CardMachine.Format.Document
import CardMachine.Text.Decimal
import CardMachine.Text.Space

/-! # From documents to programs

The declarations are taken up one by one in the order of the text, and the first fault ends it: a
declaration of a kind that was there before, a number out of range, a card or an action given
twice. If there is none, a program must have a name and cards, and a head position only with a tape.

A program that declares no alphabet reads what its cards read. If it declares no markers either,
they are the symbols its cards write and none of them reads. An empty card of the halting state is
its placeholder. -/

namespace CardMachine.Format

open Grammar (Located)

/-- What is wrong at a place of a text. -/
inductive Fault where
  | repeatedDeclaration (kind : Kind)
  | stateOutOfRange
  | stepOutOfRange
  | headOutOfRange
  | repeatedCard (id : StateId)
  | repeatedAction (symbol : Symbol) (id : StateId)
  | repeatedPreset (name : String)

/-- What is wrong with a text as a whole. -/
inductive Omission where
  | name
  | cards
  | tapeOfHead
  deriving DecidableEq

/-! ### Numbers in range -/

/-- The number, or the fault at its place. -/
def inRange {α β : Type} (convert : α → Option β) (fault : Fault) (n : Located α) :
    Except (Located Fault) β :=
  match convert n.value with
  | some b => .ok b
  | none => .error ⟨fault, n.span⟩

/-- The number of a state. -/
def stateInRange (n : Located Nat) : Except (Located Fault) StateId :=
  inRange Text.word32? .stateOutOfRange n

/-- A displacement. -/
def stepInRange (i : Located Int) : Except (Located Fault) Int64 :=
  inRange Text.signed64? .stepOutOfRange i

/-- A head position. -/
def headInRange (n : Located Nat) : Except (Located Fault) UInt64 :=
  inRange Text.word64? .headOutOfRange n

/-! ### Cards -/

/-- Adds the action of a line to the card of state `id`. -/
def addAction (id : StateId) (card : Card) (line : Located ActionLine) :
    Except (Located Fault) Card := do
  let step ← stepInRange line.value.step
  let next ← stateInRange line.value.next
  if card.contains line.value.read then
    .error ⟨.repeatedAction line.value.read id, line.span⟩
  else
    .ok (card.insert line.value.read { write := line.value.write, step, next })

/-- Adds a card to those before it. -/
def addCard (cards : KeyMap StateId Card) (lines : Located CardLines) :
    Except (Located Fault) (KeyMap StateId Card) := do
  let id ← stateInRange lines.value.id
  if cards.contains id then
    .error ⟨.repeatedCard id, lines.span⟩
  else
    .ok (cards.insert id (← lines.value.actions.foldlM (addAction id) ∅))

/-! ### Declarations -/

/-- What has been declared so far. -/
structure Declared where
  name : Option String := none
  alphabet : Option (KeySet Symbol) := none
  markers : Option (KeySet Symbol) := none
  entry : Option StateId := none
  halt : Option StateId := none
  tape : Option (List Symbol) := none
  head : Option UInt64 := none
  cards : Option (KeyMap StateId Card) := none

namespace Declared

/-- Whether a kind has been declared. -/
def has (d : Declared) : Kind → Bool
  | .name => d.name.isSome
  | .alphabet => d.alphabet.isSome
  | .markers => d.markers.isSome
  | .entry => d.entry.isSome
  | .halt => d.halt.isSome
  | .tape => d.tape.isSome
  | .head => d.head.isSome
  | .cards => d.cards.isSome

/-- Takes up the content of a declaration. -/
def set (d : Declared) : Declaration → Except (Located Fault) Declared
  | .name text => .ok { d with name := some (String.ofList (Text.trim text)) }
  | .alphabet symbols => .ok { d with alphabet := some (KeySet.ofList symbols) }
  | .markers symbols => .ok { d with markers := some (KeySet.ofList symbols) }
  | .entry id => do return { d with entry := some (← stateInRange id) }
  | .halt id => do return { d with halt := some (← stateInRange id) }
  | .tape symbols => .ok { d with tape := some symbols }
  | .head index => do return { d with head := some (← headInRange index) }
  | .cards cards => do return { d with cards := some (← cards.foldlM addCard ∅) }

/-- Takes up a declaration, whose kind must be new. -/
def add (d : Declared) (x : Located Declaration) : Except (Located Fault) Declared :=
  if d.has x.value.kind then .error ⟨.repeatedDeclaration x.value.kind, x.span⟩
  else d.set x.value

/-- Takes up the declarations of a document. -/
def ofDocument (doc : Document) : Except (Located Fault) Declared := doc.foldlM add {}

end Declared

/-! ### Programs -/

/-- The symbols that some card reads. -/
def symbolsRead (cards : KeyMap StateId Card) : List Symbol :=
  cards.entries.flatMap fun e => e.2.keys

/-- The symbols that some card writes. -/
def symbolsWritten (cards : KeyMap StateId Card) : List Symbol :=
  cards.entries.flatMap fun e => e.2.entries.map fun a => a.2.write

/-- The alphabet, if none is declared. -/
def inferredAlphabet (cards : KeyMap StateId Card) : KeySet Symbol :=
  KeySet.ofList (symbolsRead cards)

/-- The markers, if neither they nor an alphabet are declared. -/
def inferredMarkers (cards : KeyMap StateId Card) : KeySet Symbol :=
  let alphabet := inferredAlphabet cards
  KeySet.ofList ((symbolsWritten cards).filter fun c => !alphabet.contains c)

/-- The state of a card: an empty card of the halting state is its placeholder. -/
def stateOfCard (halt id : StateId) (card : Card) : State :=
  if id = halt ∧ card.isEmpty then .halting else .executable card

/-- The program that was declared, if nothing is missing. -/
def Declared.toProgram (d : Declared) : Except Omission Program :=
  match d.name, d.cards with
  | none, _ => .error .name
  | some _, none => .error .cards
  | some name, some cards =>
    if d.head.isSome && d.tape.isNone then .error .tapeOfHead
    else
      let halt := d.halt.getD Program.defaultHalt
      .ok {
        name
        alphabet := d.alphabet.getD (inferredAlphabet cards)
        markers := d.markers.getD (if d.alphabet.isSome then ∅ else inferredMarkers cards)
        entry := d.entry.getD Program.defaultEntry
        halt
        states := cards.mapValues (stateOfCard halt)
        input := d.tape.map fun cells => { name, cells, head := d.head.getD 0 } }

/-! ### Presets -/

/-- Adds a preset to those before it, whose names must differ from its own. -/
def addPreset (presets : List Preset) (line : Located PresetLine) :
    Except (Located Fault) (List Preset) := do
  let head ← headInRange line.value.head
  let name := String.ofList line.value.name
  if presets.any fun p => p.name == name then
    .error ⟨.repeatedPreset name, line.span⟩
  else
    .ok (presets ++ [{ name, cells := line.value.cells, head }])

/-- The presets of a text. -/
def presetsOfLines (lines : List (Located PresetLine)) : Except (Located Fault) (List Preset) :=
  lines.foldlM addPreset []

end CardMachine.Format
