import CardMachine.Format.Document
import CardMachine.Grammar.Basic
import CardMachine.Text.Decimal

/-! # The grammar of the text formats

There are three formats: programs, bare tapes and lists of presets. All are made of lines; between
the words of a line there may be blanks, and a line may end in a comment. Empty lines do not count.

A symbol is one character. It stands for itself, or in single quotes; it must be quoted if it
is a blank, a comma, a quote, a `#` or a line end.

An action line is tried before a card header, so that `0 -> …` is an action and `0:` a card. -/

namespace CardMachine.Format

open Grammar
open Text (isLineEnd)

/-- The rules of the formats. -/
inductive Rule where
  | endOfInput | program | declaration (kind : Kind)
  | card | action | symbols | symbol | offset | stateId | index | text
  | tapeInput | presets | preset | presetName
  deriving DecidableEq

namespace Rule

/-- All rules, in the order in which messages name them. -/
def all : List Rule :=
  [endOfInput, program] ++ Kind.all.map declaration ++
    [card, action, symbols, symbol, offset, stateId, index, text,
      tapeInput, presets, preset, presetName]

/-- The name of a rule in messages. -/
def title : Rule → String
  | endOfInput => "EOI"
  | program => "program"
  | declaration kind => kind.keyword
  | card => "card"
  | action => "action"
  | symbols => "symbols"
  | symbol => "symbol"
  | offset => "offset"
  | stateId => "state_id"
  | index => "index"
  | text => "text"
  | tapeInput => "tape_input"
  | presets => "presets"
  | preset => "preset"
  | presetName => "preset_name"

end Rule

/-! ### Words -/

/-- A line end. -/
def lineEnd : Grammar Rule Unit := .alt (.word ['\n']) (.alt (.word ['\r', '\n']) (.word ['\r']))

/-- The end of the text. -/
def endOfInput : Grammar Rule Unit := (Grammar.rule .endOfInput .finish).unit

/-- Whether a symbol can stand without quotes. -/
def isPlain (c : Char) : Bool := !(isBlank c || c == ',' || c == '\'' || c == '#' || isLineEnd c)

/-- A symbol in quotes. -/
def quotedSymbol : Grammar Rule Symbol :=
  .map (fun x => x.2.1) (.seq (.word ['\'']) (.seq (.char fun _ => true) (.word ['\''])))

/-- A symbol. -/
def symbol : Grammar Rule Symbol :=
  (Grammar.rule .symbol (.alt quotedSymbol (.char isPlain))).unplaced

/-- Symbols with commas between them. -/
def symbols : Grammar Rule (List Symbol) :=
  (Grammar.rule .symbols
    (.map (fun x => x.1 :: x.2) (symbol.both (right (.word [',']) symbol).star))).unplaced

/-- A natural number. -/
def number : Grammar Rule Nat := .map Text.decimalValue (.run Char.isDigit)

/-- A sign. -/
def sign : Grammar Rule Char := .char fun c => c == '+' || c == '-'

/-- A number with or without a sign. -/
def signedNumber : Grammar Rule Int :=
  .map (fun x => if x.1 = some '-' then -(x.2 : Int) else x.2) (.seq (.opt sign) number)

/-- A displacement of the head. -/
def offset : Grammar Rule (Located Int) := .rule .offset signedNumber

/-- The number of a state. -/
def stateId : Grammar Rule (Located Nat) := .rule .stateId number

/-- A position of the head. -/
def index : Grammar Rule (Located Nat) := .rule .index number

/-- The rest of a line. -/
def text : Grammar Rule (List Char) :=
  (Grammar.rule .text (.run fun c => !(isLineEnd c || c == '#'))).unplaced

/-- The name of a preset. -/
def presetName : Grammar Rule (List Char) :=
  (Grammar.rule .presetName (.run fun c => c.isAlphanum || c == '-' || c == '_')).unplaced

/-! ### Programs -/

/-- The keyword of a kind and its colon. -/
def heading (kind : Kind) : Grammar Rule Unit := left (.word kind.keyword.toList) (.word [':'])

/-- A declaration of a kind, whose content `g` reads. -/
def declared {α : Type} (kind : Kind) (f : α → Declaration) (g : Grammar Rule α) :
    Grammar Rule (Located Declaration) :=
  .rule (.declaration kind) (.map f (right (heading kind) g))

/-- An action: the symbol read, the symbol written, the step and the next state. -/
def action : Grammar Rule (Located ActionLine) :=
  .rule .action
    (.map (fun x => ⟨x.1, x.2.1, x.2.2.1, x.2.2.2⟩)
      ((symbol.left (.word ['-', '>'])).both
        ((symbol.left (.word [','])).both
          ((offset.left (.word [','])).both stateId))))

/-- A card: its state and its actions, each on a line of its own. -/
def card : Grammar Rule (Located CardLines) :=
  .rule .card
    (.map (fun x => ⟨x.1, x.2⟩)
      ((stateId.left (.word [':'])).both (right lineEnd.plus action).star))

/-- Any declaration. -/
def declaration : Grammar Rule (Located Declaration) :=
  .alt (declared .name .name text) <|
  .alt (declared .alphabet .alphabet symbols) <|
  .alt (declared .markers .markers symbols) <|
  .alt (declared .entry .entry stateId) <|
  .alt (declared .halt .halt stateId) <|
  .alt (declared .tape .tape symbols) <|
  .alt (declared .head .head index) <|
  declared .cards .cards (right lineEnd.plus card).plus

/-- Items on lines of their own. The last one may stand at the end of the text, without a line end
after it. -/
def lines {α : Type} (item : Grammar Rule α) : Grammar Rule (List α) :=
  left (right lineEnd.star (item.left (.alt lineEnd.plus.unit (.peek endOfInput))).star) endOfInput

/-- A whole text, which may start with a gap. -/
def whole {α : Type} (r : Rule) (g : Grammar Rule α) : Grammar Rule α :=
  (Grammar.rule r (.map Prod.snd (.seq .gap g))).unplaced

/-- The text of a program. -/
def program : Grammar Rule Document := whole .program (lines declaration)

/-! ### Tapes and presets -/

/-- The text of a tape. -/
def tapeInput : Grammar Rule (List Symbol) :=
  whole .tapeInput ((symbols.left lineEnd.star).left endOfInput)

/-- A preset. -/
def preset : Grammar Rule (Located PresetLine) :=
  .rule .preset
    (.map (fun x => ⟨x.1, x.2.1, x.2.2⟩)
      ((presetName.left (.word ['@'])).both ((index.left (.word [':'])).both symbols)))

/-- The text of a list of presets. -/
def presets : Grammar Rule (List (Located PresetLine)) := whole .presets (lines preset)

end CardMachine.Format
