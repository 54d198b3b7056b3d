import CardMachine.Files.Storage
import CardMachine.Text.Lowercase

/-! # Catalogs

A catalog holds programs and presets, which are found by name, whatever the case of its ASCII
letters. Of several with one name the first is found.

A catalog can be extended by the programs of a directory. A program whose name is taken is skipped,
so names that tell all programs apart go on doing so. -/

namespace CardMachine

open Text (sameIgnoringCase)

/-- Programs and presets. -/
structure Catalog where
  programs : List Program
  presets : List Preset

/-- What a list of programs shows of a program. -/
structure Summary where
  index : Nat
  name : String
  entry : StateId
  halt : StateId
  cards : Nat
  actions : Nat
  tapeLength : Nat

namespace Catalog

/-- The catalog with nothing in it. -/
def empty : Catalog := ⟨[], []⟩

/-- The catalog of the texts of programs and of the text of a list of presets. A text that cannot be
read is passed over. -/
def ofTexts (programs : List String) (presets : String) : Catalog where
  programs := programs.filterMap fun t => (Program.ofText t).toOption
  presets := (presetsOfText presets).toOption.getD []

/-- Texts that are given by their characters are read without a look at their bytes. -/
theorem ofTexts_ofList {presets : List Char} (hp : 4 * presets.length ≤ sizeLimit)
    {texts : List (List Char)} (ht : ∀ l ∈ texts, 4 * l.length ≤ sizeLimit) :
    ofTexts (texts.map .ofList) (.ofList presets) =
      { programs := texts.filterMap fun l =>
          (Format.readDeclared (Text.trim l)).toOption.bind fun d => d.toProgram.toOption
        presets := (Format.readPresets (Text.trim presets)).toOption.getD [] } := by
  rw [ofTexts, toOption_presetsOfText_ofList hp]
  congr 1
  induction texts with
  | nil => rfl
  | cons l texts ih =>
    obtain ⟨hl, ht⟩ := List.forall_mem_cons.mp ht
    rw [List.map_cons, List.filterMap_cons, List.filterMap_cons,
      Program.toOption_ofText_ofList hl, ih ht]

/-! ### Finding programs and presets -/

/-- The program with a name. -/
def program? (c : Catalog) (name : String) : Option Program :=
  c.programs.find? fun p => sameIgnoringCase p.name name

/-- The program with a name, or the error that there is none. -/
def program (c : Catalog) (name : String) : Except Error Program :=
  match c.program? name with
  | some p => .ok p
  | none => .error (.refused (.unknownProgram name))

/-- The program at an index. -/
def programAt (c : Catalog) (index : Nat) : Except Error Program :=
  match c.programs[index]? with
  | some p => .ok p
  | none => .error (.refused (.indexOutOfRange index))

/-- The preset with a name. -/
def preset (c : Catalog) (name : String) : Except Error Preset :=
  match c.presets.find? fun p => sameIgnoringCase p.name name with
  | some p => .ok p
  | none => .error (.refused (.unknownPreset name))

/-- The names of the programs. -/
def names (c : Catalog) : List String := c.programs.map Program.name

/-- The indexes of the programs whose names contain a text, in small letters on both sides. -/
def search (c : Catalog) (query : String) : List Nat :=
  let q := Text.lowercase query.toList
  c.programs.zipIdx.filterMap fun e =>
    if Text.occursIn q (Text.lowercase e.1.name.toList) then some e.2 else none

/-- The summary of a program with its index. -/
def summarize (index : Nat) (p : Program) : Summary where
  index
  name := p.name
  entry := p.entry
  halt := p.halt
  cards := p.cards.length
  actions := p.actionCount
  tapeLength := (p.input.map fun i => i.cells.length).getD 0

/-- The summary of the program at an index. -/
def summary (c : Catalog) (index : Nat) : Except Error Summary :=
  (c.programAt index).map (summarize index)

/-! ### Extension -/

/-- Adds a program, unless its name is taken. -/
def add (c : Catalog) (p : Program) : Catalog :=
  if (c.program? p.name).isSome then c else { c with programs := c.programs ++ [p] }

/-- Adds the programs that were loaded; the errors are returned. -/
def extend (c : Catalog) (loaded : Loaded) : Catalog × List Error :=
  (loaded.foldl (fun c r => match r with | .ok (_, p) => c.add p | .error _ => c) c,
    loaded.filterMap fun r => match r with | .ok _ => none | .error e => some e)

/-- Adds the program files of a directory. -/
def extendFrom (c : Catalog) (s : Storage) (directory : String) : Catalog × List Error :=
  c.extend (s.loadDirectory directory)

end Catalog

end CardMachine
