import CardMachine.Error
import CardMachine.Grammar.Expect

/-! # Reading programs, tapes and presets

A text is trimmed and read whole. Texts of programs and presets have a size limit, counted in bytes
before trimming; bare tapes have none. -/

namespace CardMachine

open Grammar (Cursor Located Attempts)

namespace Format

/-- Reads a trimmed text. -/
def parse {α : Type} (g : Grammar Rule α) (text : List Char) : Except Diagnostic α :=
  match g.read ⟨0, text⟩ with
  | some (a, _) => .ok a
  | none =>
    let missed := g.expect ⟨0, text⟩ .none
    .error ⟨text, .unexpected missed.pos (Rule.all.filter fun r => missed.rules.contains r)⟩

/-- Makes a fault a diagnostic of the text. -/
def blameText {α : Type} (text : List Char) : Except (Located Fault) α → Except Diagnostic α
  | .ok a => .ok a
  | .error f => .error ⟨text, .fault f.span f.value⟩

/-- Reads the declarations of a trimmed text. -/
def readDeclared (text : List Char) : Except Diagnostic Declared := do
  blameText text (Declared.ofDocument (← parse program text))

/-- Reads the presets of a trimmed text. -/
def readPresets (text : List Char) : Except Diagnostic (List Preset) := do
  blameText text (presetsOfLines (← parse presets text))

/-- Refuses a text over the size limit. -/
def checkSize (s : String) : Except Error Unit :=
  if sizeLimit < s.utf8ByteSize then .error (.refused (.tooLarge s.utf8ByteSize)) else .ok ()

end Format

open Format

/-- Reads the text of a program. -/
def Program.ofText (s : String) : Except Error Program := do
  checkSize s
  let declared ← (readDeclared (Text.trim s.toList)).mapError .parse
  declared.toProgram.mapError fun omission => .refused (.incomplete omission)

/-- Reads the text of a tape. -/
def tapeOfText (s : String) : Except Error (List Symbol) :=
  (parse tapeInput (Text.trim s.toList)).mapError .parse

/-- Reads the text of a list of presets. -/
def presetsOfText (s : String) : Except Error (List Preset) := do
  checkSize s
  (readPresets (Text.trim s.toList)).mapError .parse

/-! ### Texts given by their characters -/

variable {l : List Char}

/-- A character has at most four bytes. -/
theorem utf8ByteSize_ofList_le : ∀ l : List Char, (String.ofList l).utf8ByteSize ≤ 4 * l.length
  | [] => Nat.le_refl 0
  | c :: l => by
    have hrest := utf8ByteSize_ofList_le l
    have hc := c.utf8Size_le_four
    rw [String.ofList_cons, String.utf8ByteSize_append, String.utf8ByteSize_singleton,
      List.length_cons]
    omega

theorem checkSize_ofList (hl : 4 * l.length ≤ sizeLimit) : checkSize (.ofList l) = .ok () :=
  if_neg (Nat.not_lt.mpr (Nat.le_trans (utf8ByteSize_ofList_le l) hl))

theorem Program.toOption_ofText_ofList (hl : 4 * l.length ≤ sizeLimit) :
    (ofText (.ofList l)).toOption =
      (readDeclared (Text.trim l)).toOption.bind fun declared => declared.toProgram.toOption := by
  rw [ofText, checkSize_ofList hl, String.toList_ofList]
  show (((readDeclared (Text.trim l)).mapError Error.parse).bind _).toOption = _
  cases readDeclared (Text.trim l) with
  | error d => rfl
  | ok declared =>
    show (declared.toProgram.mapError _).toOption = declared.toProgram.toOption
    cases declared.toProgram <;> rfl

theorem toOption_presetsOfText_ofList (hl : 4 * l.length ≤ sizeLimit) :
    (presetsOfText (.ofList l)).toOption = (readPresets (Text.trim l)).toOption := by
  rw [presetsOfText, checkSize_ofList hl, String.toList_ofList]
  show ((readPresets (Text.trim l)).mapError _).toOption = _
  cases readPresets (Text.trim l) <;> rfl

end CardMachine
