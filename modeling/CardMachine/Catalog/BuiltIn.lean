import CardMachine.Catalog.Basic
import CardMachine.Catalog.Texts

/-! # Built-in programs

Ten small programs on bits and blanks, and tapes for them. A cell is `_`, the blank, or a bit. Most
of the programs start on the blank to the left of their input, and mark the cell with `E` and halt
where the input is not what they expect. -/

namespace CardMachine.Catalog

/-- Marks the cell and halts. -/
def reject : Action := ⟨'E', 0, 0⟩

/-- A card from its actions on the blank, on zero and on one. -/
def bitCard (blank zero one : Action) : Card :=
  KeyMap.ofList [('0', zero), ('1', one), ('_', blank)]

section BitCard

variable {blank zero one : Action}

theorem get?_bitCard_blank : (bitCard blank zero one).get? '_' = some blank := rfl

theorem get?_bitCard_zero : (bitCard blank zero one).get? '0' = some zero := rfl

theorem get?_bitCard_one : (bitCard blank zero one).get? '1' = some one := rfl

end BitCard

/-- A program on bits and blanks with the halting state 0 and the given cards for the states 1,
2, …, of which the first is the entry state. -/
def bitProgram (name : String) (markers : List Symbol) (tape : String) (head : UInt64)
    (cards : List Card) : Program where
  name
  alphabet := KeySet.ofList ['0', '1', '_']
  markers := KeySet.ofList markers
  entry := 1
  halt := 0
  states := KeyMap.ofList
    ((0, .halting) :: cards.zipIdx.map fun e => (.ofNat (e.2 + 1), .executable e.1))
  input := some { name, cells := tape.toList, head }

/-! ### Programs -/

/-- Walks right over a run of ones and blanks the first zero after it. -/
def trailingBlank : Program :=
  bitProgram "Trailing blank" [] "000000000000000_11000000000000" 15
    [bitCard ⟨'_', 1, 1⟩ ⟨'_', 0, 0⟩ ⟨'1', 1, 1⟩]

/-- Adds one to a binary number between blanks, from the blank on its left. -/
def increment : Program :=
  bitProgram "Binary increment" ['E'] "_1000_000000000" 0
    [bitCard ⟨'_', 1, 2⟩ reject reject,
      bitCard ⟨'_', -1, 3⟩ ⟨'0', 1, 2⟩ ⟨'1', 1, 2⟩,
      bitCard ⟨'1', 0, 0⟩ ⟨'1', 0, 0⟩ ⟨'0', -1, 3⟩]

/-- Flips every bit of a binary number between blanks. -/
def bitwiseNot : Program :=
  bitProgram "Bitwise NOT" ['E'] "_1000_000000000" 0
    [bitCard ⟨'_', 1, 2⟩ reject reject,
      bitCard ⟨'_', 0, 0⟩ ⟨'1', 1, 2⟩ ⟨'0', 1, 2⟩]

/-- The conjunction of the two bits after the left blank, two cells after the second bit. -/
def andGate : Program :=
  bitProgram "AND gate" ['E'] "_11___000000000" 0
    [bitCard ⟨'_', 1, 2⟩ reject reject,
      bitCard reject ⟨'0', 3, 3⟩ ⟨'1', 1, 4⟩,
      bitCard ⟨'0', 0, 0⟩ reject reject,
      bitCard reject ⟨'0', 2, 3⟩ ⟨'1', 2, 5⟩,
      bitCard ⟨'1', 0, 0⟩ reject reject]

/-- The disjunction of the two bits after the left blank, two cells after the second bit. -/
def orGate : Program :=
  bitProgram "OR gate" ['E'] "_11___000000000" 0
    [bitCard ⟨'_', 1, 2⟩ reject reject,
      bitCard reject ⟨'0', 1, 3⟩ ⟨'1', 3, 5⟩,
      bitCard reject ⟨'0', 2, 4⟩ ⟨'1', 2, 5⟩,
      bitCard ⟨'0', 0, 0⟩ reject reject,
      bitCard ⟨'1', 0, 0⟩ reject reject]

/-- The exclusive disjunction of the two bits after the left blank, two cells after the second
bit. -/
def xorGate : Program :=
  bitProgram "XOR gate" ['E'] "_11___000000000" 0
    [bitCard ⟨'_', 1, 2⟩ reject reject,
      bitCard reject ⟨'0', 1, 3⟩ ⟨'1', 1, 4⟩,
      bitCard reject ⟨'0', 2, 5⟩ ⟨'1', 2, 6⟩,
      bitCard reject ⟨'0', 2, 6⟩ ⟨'1', 2, 5⟩,
      bitCard ⟨'0', 0, 0⟩ reject reject,
      bitCard ⟨'1', 0, 0⟩ reject reject]

/-- Copies a word of four bits five cells to the right. -/
def copyWord : Program :=
  bitProgram "Copy word" ['E'] "_1000______0000" 0
    [bitCard ⟨'_', 1, 2⟩ reject reject,
      bitCard ⟨'_', 0, 0⟩ ⟨'0', 5, 3⟩ ⟨'1', 5, 4⟩,
      bitCard ⟨'0', -4, 2⟩ reject reject,
      bitCard ⟨'1', -4, 2⟩ reject reject]

/-- Adds two unary numbers with one blank between them: fills the gap and blanks the last one. -/
def unaryAddition : Program :=
  bitProgram "Unary addition" ['E'] "_1111_11111_000" 0
    [bitCard ⟨'_', 1, 2⟩ reject reject,
      bitCard ⟨'1', 1, 3⟩ reject ⟨'1', 1, 2⟩,
      bitCard ⟨'_', -1, 4⟩ reject ⟨'1', 1, 3⟩,
      bitCard reject reject ⟨'_', 0, 0⟩]

/-- Subtracts one from a binary number between blanks; marks the left blank if the number is
zero. -/
def decrement : Program :=
  bitProgram "Binary decrement" ['E'] "_1000_000000000" 0
    [bitCard ⟨'_', 1, 2⟩ reject reject,
      bitCard ⟨'_', -1, 3⟩ ⟨'0', 1, 2⟩ ⟨'1', 1, 2⟩,
      bitCard reject ⟨'1', -1, 3⟩ ⟨'0', 0, 0⟩]

/-- Compares two words of two bits with a blank between them: writes one if they are equal, else
zero. -/
def wordEquality : Program :=
  bitProgram "Word equality" ['E'] "_00_10___0" 0
    [bitCard ⟨'_', 1, 2⟩ reject reject,
      bitCard reject ⟨'0', 3, 3⟩ ⟨'1', 3, 4⟩,
      bitCard reject ⟨'0', -2, 5⟩ ⟨'1', 3, 8⟩,
      bitCard reject ⟨'0', 3, 8⟩ ⟨'1', -2, 5⟩,
      bitCard reject ⟨'0', 3, 6⟩ ⟨'1', 3, 7⟩,
      bitCard reject ⟨'0', 2, 9⟩ ⟨'1', 2, 8⟩,
      bitCard reject ⟨'0', 2, 8⟩ ⟨'1', 2, 9⟩,
      bitCard ⟨'0', 0, 0⟩ reject reject,
      bitCard ⟨'1', 0, 0⟩ reject reject]

/-! ### Tapes -/

/-- The built-in tapes. -/
def builtInPresets : List Preset :=
  [⟨"ones-run", "000000000000000_11000000000000".toList, 15⟩,
    ⟨"ones-line", "_11110000000000".toList, 0⟩,
    ⟨"binary-word", "_1000_000000000".toList, 0⟩,
    ⟨"bit-pair", "_11___000000000".toList, 0⟩,
    ⟨"copy-word", "_1000______0000".toList, 0⟩,
    ⟨"unary-pair", "_1111_11111_000".toList, 0⟩,
    ⟨"word-pair", "_00_10___0".toList, 0⟩]

/-- The built-in catalog. -/
def builtIn : Catalog where
  programs :=
    [trailingBlank, increment, bitwiseNot, andGate, orGate,
      xorGate, copyWord, unaryAddition, decrement, wordEquality]
  presets := builtInPresets

-- The characters of a text are as deep a term as the text is long.
set_option maxRecDepth 10000 in
/-- **The built-in catalog is what is read from the texts**, none of which is passed over. -/
theorem ofTexts_builtIn : ofTexts programTexts presetsText = builtIn := by
  obtain ⟨texts, presets, htexts, hpresets, hsize, hread⟩ : ∃ texts presets,
      programTexts = texts.map .ofList ∧ presetsText = .ofList presets ∧
      (4 * presets.length ≤ sizeLimit ∧ ∀ l ∈ texts, 4 * l.length ≤ sizeLimit) ∧
      (texts.filterMap fun l =>
        (Format.readDeclared (Text.trim l)).toOption.bind fun d => d.toProgram.toOption) =
          builtIn.programs ∧
      (Format.readPresets (Text.trim presets)).toOption.getD [] = builtIn.presets :=
    ⟨[_, _, _, _, _, _, _, _, _, _], _, rfl, rfl, by decide +kernel, by decide +kernel,
      by decide +kernel⟩
  rw [htexts, hpresets, ofTexts_ofList hsize.1 hsize.2, hread.1, hread.2]

end CardMachine.Catalog
