import CardMachine.Format.Writer
import CardMachine.Grammar.Cursor
import CardMachine.Proofs.KeyMap
import Mathlib.Data.List.Forall2

/-! # Layouts of a program

The text of a program is a sequence of lines and a line is a sequence of words. How the words of a
line are spaced, how lines end, which empty lines and comments stand between them and in which of
its two forms a symbol is spelled is the layout. `Layout` relates lines of words to all their
layouts; `Program.LaidOut p s` says that `s` is a layout of the declarations of `p`, in any order.

The text that is written for a program is one of them (`laidOut_toText`). Not every program can be
told from its declarations; `Program.Expressible` says which can. -/

namespace CardMachine

open Text (decimal signedDecimal isLineEnd)
open Grammar (isBlank)

namespace Format

/-! ### Words and lines -/

/-- A word of a line: a fixed text or a symbol. -/
inductive Token where
  | text (w : List Char)
  | symbol (c : Symbol)

/-- The spellings of a word. A symbol is spelled as it is written, or in quotes. -/
inductive Spelling : Token → List Char → Prop where
  | text (w : List Char) : Spelling (.text w) w
  | written (c : Symbol) : Spelling (.symbol c) (writeSymbol c)
  | quoted (c : Symbol) : Spelling (.symbol c) (inQuotes c)

/-- Any number of blanks. -/
def Blanks (s : List Char) : Prop := ∀ c ∈ s, isBlank c = true

/-- A comment, or none. -/
def Comment (s : List Char) : Prop := s = [] ∨ ∃ t, s = '#' :: t ∧ ∀ c ∈ t, isLineEnd c = false

/-- A line end. -/
def LineEnd (s : List Char) : Prop := s = ['\n'] ∨ s = ['\r', '\n'] ∨ s = ['\r']

/-- What may follow the words of a line, which is also a line without words. -/
inductive LineTail : List Char → Prop where
  | intro {b c e : List Char} (hb : Blanks b) (hc : Comment c) (he : LineEnd e) :
      LineTail (b ++ (c ++ e))

/-- The words, with blanks before each of them, stand at the front of the text `s`, and `z` follows
them. -/
inductive Spells : List Token → List Char → List Char → Prop where
  | nil (z : List Char) : Spells [] z z
  | cons {b w s z : List Char} {t : Token} {ts : List Token} (hb : Blanks b)
      (hw : Spelling t w) (hs : Spells ts s z) : Spells (t :: ts) (b ++ (w ++ s)) z

/-- The layouts of a list of lines, with lines without words before, between and after them. -/
inductive Layout : List (List Token) → List Char → Prop where
  | nil : Layout [] []
  | blank {w s : List Char} {ls : List (List Token)} (hw : LineTail w) (hs : Layout ls s) :
      Layout ls (w ++ s)
  | line {s w r : List Char} {l : List Token} {ls : List (List Token)} (hl : Spells l s (w ++ r))
      (hw : LineTail w) (hr : Layout ls r) : Layout (l :: ls) s

/-! ### The words of a program -/

/-- The words that start a declaration. -/
def headingWords (kind : Kind) : List Token := [.text kind.keyword.toList, .text [':']]

/-- Symbols with commas between them. -/
def symbolWords : List Symbol → List Token
  | [] => []
  | c :: l => .symbol c :: l.flatMap fun c => [.text [','], .symbol c]

/-- The words of an action. -/
def actionWords (e : Symbol × Action) : List Token :=
  [.symbol e.1, .text ['-', '>'], .symbol e.2.write, .text [','],
    .text (signedDecimal e.2.step.toInt), .text [','], .text (decimal e.2.next.toNat)]

/-- The words of the header of a card. -/
def headerWords (id : StateId) : List Token := [.text (decimal id.toNat), .text [':']]

/-- The lines of a state: the header of its card, then its actions. -/
def stateWords (e : StateId × State) : List (List Token) :=
  headerWords e.1 :: (stateActions e.2).map actionWords

/-- The lines of a declaration of a program. -/
def sectionWords (p : Program) : Kind → List (List Token)
  | .name => [headingWords .name ++ [.text p.name.toList]]
  | .alphabet => [headingWords .alphabet ++ symbolWords p.alphabet.toList]
  | .markers => [headingWords .markers ++ symbolWords p.markers.toList]
  | .entry => [headingWords .entry ++ [.text (decimal p.entry.toNat)]]
  | .halt => [headingWords .halt ++ [.text (decimal p.halt.toNat)]]
  | .tape => [headingWords .tape ++ symbolWords ((p.input.map Preset.cells).getD [])]
  | .head => [headingWords .head ++ [.text (decimal ((p.input.map Preset.head).getD 0).toNat)]]
  | .cards => headingWords .cards :: p.states.entries.flatMap stateWords

/-- Whether the text of a program has a declaration of that kind. -/
def writes (p : Program) : Kind → Bool
  | .alphabet => !p.alphabet.isEmpty
  | .markers => !p.markers.isEmpty
  | .tape => p.input.isSome
  | .head => p.input.isSome
  | .name | .entry | .halt | .cards => true

/-- The kinds of the declarations of a program. -/
def kinds (p : Program) : List Kind := Kind.all.filter (writes p)

end Format

open Format

/-- The programs that have a text. The name is on one line and nothing of it is trimmed away or
read as a comment; there is a card; placeholders stand for the halting state and empty cards do not;
an alphabet that is left out is not inferred to be another; and the tape has the program's name. -/
structure Program.Expressible (p : Program) : Prop where
  name_ne : p.name ≠ ""
  name_trim : Text.trim p.name.toList = p.name.toList
  name_line : ∀ c ∈ p.name.toList, c ≠ '\n' ∧ c ≠ '\r' ∧ c ≠ '#'
  states : p.states.entries ≠ []
  halting : ∀ e ∈ p.states.entries, e.2 = .halting → e.1 = p.halt
  halt : ∀ e ∈ p.states.entries, e.1 = p.halt → e.2 ≠ .executable ∅
  alphabet : p.alphabet.entries ≠ [] ∨ ∀ e ∈ p.cards, e.2.entries = []
  input : ∀ i ∈ p.input, i.name = p.name ∧ i.cells ≠ []

instance (p : Program) : Decidable p.Expressible :=
  have : Decidable (∀ c ∈ p.name.toList, c ≠ '\n' ∧ c ≠ '\r' ∧ c ≠ '#') := List.decidableBAll _ _
  decidable_of_iff
    (p.name ≠ "" ∧ Text.trim p.name.toList = p.name.toList ∧
      (∀ c ∈ p.name.toList, c ≠ '\n' ∧ c ≠ '\r' ∧ c ≠ '#') ∧ p.states.entries ≠ [] ∧
      (∀ e ∈ p.states.entries, e.2 = .halting → e.1 = p.halt) ∧
      (∀ e ∈ p.states.entries, e.1 = p.halt → e.2 ≠ .executable ∅) ∧
      (p.alphabet.entries ≠ [] ∨ ∀ e ∈ p.cards, e.2.entries = []) ∧
      ∀ i ∈ p.input, i.name = p.name ∧ i.cells ≠ [])
    ⟨fun ⟨h₁, h₂, h₃, h₄, h₅, h₆, h₇, h₈⟩ => ⟨h₁, h₂, h₃, h₄, h₅, h₆, h₇, h₈⟩,
      fun h => ⟨h.1, h.2, h.3, h.4, h.5, h.6, h.7, h.8⟩⟩

/-- The declarations of the program, in some order and layout. -/
def Program.LaidOut (p : Program) (s : List Char) : Prop :=
  ∃ order : List Kind, order.Perm (kinds p) ∧ Layout (order.flatMap (sectionWords p)) s

namespace Format

/-! ### The written text is a layout -/

/-- A line, without its end, is one layout of the words. -/
def Spelt (ts : List Token) (line : Line) : Prop := ∀ z, Spells ts (line ++ z) z

theorem Spells.append {ts ts' : List Token} {s y z : List Char} (h : Spells ts s y)
    (h' : Spells ts' y z) : Spells (ts ++ ts') s z := by
  induction h with
  | nil => exact h'
  | cons hb hw _ ih => exact .cons hb hw (ih h')

theorem spelt_nil : Spelt [] [] := fun z => .nil z

theorem spelt_word {t : Token} {w : List Char} (hw : Spelling t w) : Spelt [t] w :=
  fun z => .cons (b := []) (fun _ h => by cases h) hw (.nil z)

theorem Spelt.append {ts ts' : List Token} {line line' : List Char} (h : Spelt ts line)
    (h' : Spelt ts' line') : Spelt (ts ++ ts') (line ++ line') := by
  intro z
  rw [List.append_assoc]
  exact (h (line' ++ z)).append (h' z)

/-- More blanks before the words. -/
theorem Spells.blanks {t : Token} {ts : List Token} {b s z : List Char} (hb : Blanks b)
    (h : Spells (t :: ts) s z) : Spells (t :: ts) (b ++ s) z := by
  cases h with
  | @cons b' w s _ _ _ hb' hw hs =>
    rw [← List.append_assoc]
    refine .cons (fun c hc => ?_) hw hs
    rcases List.mem_append.mp hc with hc | hc
    · exact hb c hc
    · exact hb' c hc

theorem Spelt.blanks {t : Token} {ts : List Token} {b line : List Char} (hb : Blanks b)
    (h : Spelt (t :: ts) line) : Spelt (t :: ts) (b ++ line) := by
  intro z
  rw [List.append_assoc]
  exact (h z).blanks hb

theorem Spelt.blank {t : Token} {ts : List Token} {line : List Char} (h : Spelt (t :: ts) line) :
    Spelt (t :: ts) (' ' :: line) := h.blanks (b := [' ']) (by simp [Blanks, isBlank])

theorem spelt_heading (kind : Kind) : Spelt (headingWords kind) (kind.keyword.toList ++ [':']) :=
  (spelt_word (.text _)).append (spelt_word (.text _))

theorem writeSymbols_singleton (c : Symbol) : writeSymbols [c] = writeSymbol c :=
  List.intercalate_singleton

theorem writeSymbols_cons_cons (c d : Symbol) (l : List Symbol) :
    writeSymbols (c :: d :: l) = writeSymbol c ++ ([','] ++ ' ' :: writeSymbols (d :: l)) := by
  rw [writeSymbols, List.map_cons, List.map_cons, List.intercalate_cons_cons,
    ← List.map_cons, ← writeSymbols]
  simp

theorem spelt_symbols : ∀ cells : List Symbol, Spelt (symbolWords cells) (writeSymbols cells)
  | [] => spelt_nil
  | [c] => by
    rw [writeSymbols_singleton]
    exact spelt_word (.written c)
  | c :: d :: l => by
    rw [writeSymbols_cons_cons]
    exact (spelt_word (.written c)).append
      ((spelt_word (.text [','])).append (spelt_symbols (d :: l)).blank)

theorem spelt_declaration {t : Token} {ts : List Token} {content : List Char} (kind : Kind)
    (h : Spelt (t :: ts) content) :
    Spelt (headingWords kind ++ t :: ts) (declarationLine kind content) := by
  have := (spelt_heading kind).append h.blank
  simpa [declarationLine] using this

theorem spelt_header (id : StateId) :
    Spelt (headerWords id) ([' ', ' '] ++ decimal id.toNat ++ [':']) := by
  have := (spelt_word (.text (decimal id.toNat))).append (spelt_word (.text [':']))
  simpa [headerWords] using Spelt.blank (Spelt.blank this)

theorem spelt_action (e : Symbol × Action) : Spelt (actionWords e) (actionLine e) := by
  have h₁ := (spelt_word (.written e.1)).append (spelt_word (.text ['-', '>'])).blank
  have h₂ := (spelt_word (.written e.2.write)).append (spelt_word (.text [',']))
  have h₃ := (spelt_word (.text (signedDecimal e.2.step.toInt))).append (spelt_word (.text [',']))
  have h₄ := h₃.blank.append (spelt_word (.text (decimal e.2.next.toNat))).blank
  have := h₁.append (h₂.blank.append h₄)
  simpa [actionWords, actionLine] using Spelt.blank (Spelt.blank (Spelt.blank (Spelt.blank this)))

/-! ### Blocks -/

theorem Spells.extend {ts : List Token} {s z : List Char} (h : Spells ts s z) (y : List Char) :
    Spells ts (s ++ y) (z ++ y) := by
  induction h with
  | nil => exact .nil _
  | cons hb hw _ ih =>
    rw [List.append_assoc, List.append_assoc]
    exact .cons hb hw ih

theorem Layout.append {ls ls' : List (List Token)} {s s' : List Char} (h : Layout ls s)
    (h' : Layout ls' s') : Layout (ls ++ ls') (s ++ s') := by
  induction h with
  | nil => exact h'
  | blank hw _ ih => rw [List.append_assoc]; exact .blank hw ih
  | @line s w r l ls hl hw _ ih =>
    have hl := hl.extend s'
    rw [List.append_assoc] at hl
    exact .line hl hw ih

theorem lineTail_lineFeed : LineTail ['\n'] :=
  .intro (b := []) (c := []) (fun _ h => by cases h) (.inl rfl) (.inl rfl)

theorem unlines_append (a b : List Line) : unlines (a ++ b) = unlines a ++ unlines b :=
  List.flatMap_append

theorem Layout.spelt {ts : List Token} {line w r : List Char} {ls : List (List Token)}
    (h : Spelt ts line) (hw : LineTail w) (hr : Layout ls r) :
    Layout (ts :: ls) (line ++ (w ++ r)) := .line (h _) hw hr

theorem Layout.cons {ts : List Token} {line : Line} {ls : List (List Token)} {lines : List Line}
    (h : Spelt ts line) (hl : Layout ls (unlines lines)) :
    Layout (ts :: ls) (unlines (line :: lines)) := by
  have := Layout.spelt h lineTail_lineFeed hl
  rwa [← List.append_assoc] at this

theorem layout_actions : ∀ l : List (Symbol × Action),
    Layout (l.map actionWords) (unlines (l.map actionLine))
  | [] => .nil
  | e :: l => (layout_actions l).cons (spelt_action e)

theorem layout_states : ∀ l : List (StateId × State),
    Layout (l.flatMap stateWords) (unlines (l.flatMap stateLines))
  | [] => .nil
  | e :: l => by
    rw [List.flatMap_cons, List.flatMap_cons, unlines_append]
    exact ((layout_actions (stateActions e.2)).cons (spelt_header e.1)).append (layout_states l)

theorem layout_symbols (kind : Kind) {l : List Symbol} (hl : l ≠ []) :
    Layout [headingWords kind ++ symbolWords l]
      (unlines [declarationLine kind (writeSymbols l)]) := by
  obtain ⟨c, l, rfl⟩ := List.exists_cons_of_ne_nil hl
  exact Layout.nil.cons (spelt_declaration kind (spelt_symbols (c :: l)))

theorem layout_word (kind : Kind) (w : List Char) :
    Layout [headingWords kind ++ [.text w]] (unlines [declarationLine kind w]) :=
  Layout.nil.cons (spelt_declaration kind (spelt_word (.text w)))

theorem layout_symbolsBlock {p : Program} (kind : Kind) (symbols : KeySet Symbol)
    (hw : writes p kind = !symbols.isEmpty)
    (hs : sectionWords p kind = [headingWords kind ++ symbolWords symbols.toList]) :
    Layout (([kind].filter (writes p)).flatMap (sectionWords p))
      (unlines (symbolsBlock kind symbols).flatten) := by
  unfold symbolsBlock
  cases he : symbols.isEmpty with
  | true =>
    rw [List.filter_cons_of_neg (by simp [hw, he])]
    exact .nil
  | false =>
    rw [List.filter_cons_of_pos (by simp [hw, he])]
    simpa [hs] using layout_symbols kind (KeySet.toList_ne_nil he)

theorem layout_input {p : Program} (hi : ∀ i ∈ p.input, i.cells ≠ []) :
    Layout (([.tape, .head].filter (writes p)).flatMap (sectionWords p))
      (unlines (inputBlocks p.input).flatten) := by
  cases h : p.input with
  | none =>
    rw [List.filter_eq_nil_iff.mpr (by simp [writes, h])]
    exact .nil
  | some i =>
    rw [List.filter_eq_self.mpr (by simp [writes, h])]
    have := (layout_symbols .tape (hi i h)).append (layout_word .head (decimal i.head.toNat))
    simpa [sectionWords, h, inputBlocks, unlines] using this

theorem kinds_eq (p : Program) :
    kinds p = [.name] ++ [.alphabet].filter (writes p) ++ [.markers].filter (writes p) ++
      [.entry, .halt] ++ [.tape, .head].filter (writes p) ++ [.cards] := by
  show ([.name] ++ [.alphabet] ++ [.markers] ++ [.entry, .halt] ++ [.tape, .head] ++ [.cards]
    : List Kind).filter (writes p) = _
  simp only [List.filter_append]
  rfl

/-- **The written text is a layout**, in the order of the kinds. Each block of lines is a layout of
the declaration it is written for. -/
theorem laidOut_toText {p : Program} (hi : ∀ i ∈ p.input, i.cells ≠ []) :
    p.LaidOut p.toText.toList := by
  refine ⟨kinds p, .refl _, ?_⟩
  rw [kinds_eq, Program.toText, String.toList_ofList, blocks]
  simp only [List.flatMap_append, List.flatten_append, unlines_append]
  have ha := layout_symbolsBlock .alphabet p.alphabet (p := p) rfl rfl
  have hm := layout_symbolsBlock .markers p.markers (p := p) rfl rfl
  have hs := (layout_word .entry (decimal p.entry.toNat)).append
    (layout_word .halt (decimal p.halt.toNat))
  have hc := (layout_states p.states.entries).cons (spelt_heading .cards)
  refine .append (.append (.append (.append (.append ?_ ha) hm) ?_) (layout_input hi)) ?_
  · exact layout_word .name p.name.toList
  · simpa [sectionWords, unlines] using hs
  · simpa [sectionWords] using hc

end Format

end CardMachine
