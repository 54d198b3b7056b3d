import CardMachine.Format.Reader

/-! # Loading programs from files

What can be read is a `Storage`: the text of a file by its path, and the entries of a directory.
Loading a directory loads its program files, those with the extension `cards`, in the order of their
names, whatever order the entries are listed in. Each gives a program or the error that kept it from
being loaded. -/

namespace CardMachine

/-- An entry of a directory. -/
inductive Entry where
  | directory
  | file (text : Except Obstacle String)

/-- The entries of a directory with their names, in any order. -/
abbrev Listing := List (String × Entry)

/-- What can be read. -/
structure Storage where
  /-- The text of a file. -/
  read : String → Except Obstacle String
  /-- The entries of a directory, or nothing if there is nothing at the path. -/
  list : String → Option (Except Obstacle Listing)

/-- The text of a file with this content. -/
def textOfBytes (content : ByteArray) : Except Obstacle String :=
  match String.fromUTF8? content with
  | some s => .ok s
  | none => .error .invalidText

/-! ### Names -/

/-- What follows the last dot of a name; a name whose only dot is its first character has no
extension. -/
def extension? (name : String) : Option String :=
  let reversed := name.toList.reverse
  let last := reversed.takeWhile (· ≠ '.')
  match reversed.drop last.length with
  | [] => none
  | ['.'] => none
  | _ => some (String.ofList last.reverse)

/-- The extension of program files. -/
def programExtension : String := "cards"

/-- The path of an entry of a directory. -/
def entryPath (directory name : String) : String :=
  if directory.toList.getLast? = some '/' then directory ++ name else directory ++ "/" ++ name

/-! ### Loading -/

/-- What loading a directory gives for each program file: its path and program, or an error. -/
abbrev Loaded := List (Except Error (String × Program))

/-- Loads the text at a path. -/
def loadText {α : Type} (read : String → Except Error α) (path : String)
    (text : Except Obstacle String) : Except Error α := do
  read (← text.mapError fun o => .file (.unreadable path o))

/-- Loads an entry of a directory, if it is a program file. -/
def loadFile? (directory : String) (e : String × Entry) :
    Option (Except Error (String × Program)) :=
  match e.2 with
  | .directory => none
  | .file text =>
    if extension? e.1 = some programExtension then
      let path := entryPath directory e.1
      match loadText Program.ofText path text with
      | .ok p => some (.ok (path, p))
      | .error cause => some (.error (.unloadable path cause))
    else none

/-- Loads the program files among the entries of a directory. -/
def loadListing (directory : String) (listing : Listing) : Loaded :=
  (listing.mergeSort fun a b => decide (a.1 ≤ b.1)).filterMap (loadFile? directory)

namespace Storage

/-- Loads a program file. -/
def loadProgram (s : Storage) (path : String) : Except Error Program :=
  loadText Program.ofText path (s.read path)

/-- Loads a file of presets. -/
def loadPresets (s : Storage) (path : String) : Except Error (List Preset) :=
  loadText presetsOfText path (s.read path)

/-- Loads the program files of a directory. -/
def loadDirectory (s : Storage) (path : String) : Loaded :=
  match s.list path with
  | none => [.error (.file (.noDirectory path))]
  | some (.error o) => [.error (.file (.unlistable path o))]
  | some (.ok listing) => loadListing path listing

end Storage

end CardMachine
