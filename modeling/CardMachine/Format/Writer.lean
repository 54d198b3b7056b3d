import CardMachine.Format.Document
import CardMachine.Text.Decimal
import CardMachine.Text.Space

/-! # Programs, tapes and presets as text

The text of a program is a sequence of blocks, one for each declaration; a block is a list of lines.
The entry and halting states are always written; an empty alphabet, empty markers and a missing tape
are left out. The placeholder of the halting state is written as an empty card. -/

namespace CardMachine

open Text (decimal signedDecimal isSpace isControl)

/-- A line without its end. -/
abbrev Line := List Char

namespace Format

/-- Whether a symbol is written in quotes: those that would be read as separators or comments, and
those that cannot be seen. -/
def needsQuotes (c : Symbol) : Bool :=
  isSpace c || isControl c || c == ',' || c == '\'' || c == '#'

/-- A symbol in quotes. -/
def inQuotes (c : Symbol) : List Char := ['\'', c, '\'']

/-- A symbol as it is written. -/
def writeSymbol (c : Symbol) : List Char := if needsQuotes c then inQuotes c else [c]

/-- Symbols with commas between them. -/
def writeSymbols (cells : List Symbol) : List Char :=
  List.intercalate [',', ' '] (cells.map writeSymbol)

/-- The line of a declaration. -/
def declarationLine (kind : Kind) (content : List Char) : Line :=
  kind.keyword.toList ++ [':', ' '] ++ content

/-- The line of an action. -/
def actionLine (e : Symbol × Action) : Line :=
  [' ', ' ', ' ', ' '] ++ writeSymbol e.1 ++ [' ', '-', '>', ' '] ++ writeSymbol e.2.write ++
    [',', ' '] ++ signedDecimal e.2.step.toInt ++ [',', ' '] ++ decimal e.2.next.toNat

/-- The actions of a state. -/
def stateActions : State → List (Symbol × Action)
  | .halting => []
  | .executable card => card.entries

/-- The lines of a state: the header of its card, then its actions. -/
def stateLines (e : StateId × State) : List Line :=
  ([' ', ' '] ++ decimal e.1.toNat ++ [':']) :: (stateActions e.2).map actionLine

/-- The lines of an optional declaration of symbols. -/
def symbolsBlock (kind : Kind) (symbols : KeySet Symbol) : List (List Line) :=
  if symbols.isEmpty then [] else [[declarationLine kind (writeSymbols symbols.toList)]]

/-- The blocks of a program's own tape. -/
def inputBlocks : Option Preset → List (List Line)
  | none => []
  | some input =>
    [[declarationLine .tape (writeSymbols input.cells)],
      [declarationLine .head (decimal input.head.toNat)]]

/-- The blocks of a program. -/
def blocks (p : Program) : List (List Line) :=
  [[declarationLine .name p.name.toList]] ++
    symbolsBlock .alphabet p.alphabet ++
    symbolsBlock .markers p.markers ++
    [[declarationLine .entry (decimal p.entry.toNat)],
      [declarationLine .halt (decimal p.halt.toNat)]] ++
    inputBlocks p.input ++
    [(Kind.cards.keyword.toList ++ [':']) :: p.states.entries.flatMap stateLines]

/-- Lines with their ends. -/
def unlines (lines : List Line) : List Char := lines.flatMap (· ++ ['\n'])

/-- The line of a preset. -/
def presetLine (p : Preset) : Line :=
  p.name.toList ++ [' ', '@', ' '] ++ decimal p.head.toNat ++ [':', ' '] ++ writeSymbols p.cells

end Format

/-- The text of a program. -/
def Program.toText (p : Program) : String :=
  String.ofList (Format.unlines (Format.blocks p).flatten)

/-- The text of a tape. -/
def tapeToText (cells : List Symbol) : String := String.ofList (Format.writeSymbols cells)

/-- The text of a list of presets. -/
def presetsToText (presets : List Preset) : String :=
  String.ofList (Format.unlines (presets.map Format.presetLine))

end CardMachine
