import CardMachine.Files.Storage

/-! # Trees of files

A tree of directories and files, addressed by paths relative to its root. A path is followed name by
name; an empty name and a dot stay where they are, two dots go up, and each of them needs a
directory to stand in.

Putting a file or a directory at a path makes every directory on the way, also one that two dots
leave again. What is there already stays, except that a file takes the place of a file. -/

namespace CardMachine

/-- A file or a directory. -/
inductive FileTree where
  | file (content : ByteArray)
  | directory (entries : List (String × FileTree))

namespace FileTree

/-- A directory without entries. -/
def empty : FileTree := directory []

/-- The entry of a name. -/
def child? (entries : List (String × FileTree)) (name : String) : Option FileTree :=
  (entries.find? fun e => e.1 == name).map Prod.snd

/-- The entries with the one of a name replaced or added. -/
def withEntry (entries : List (String × FileTree)) (name : String) (node : FileTree) :
    List (String × FileTree) :=
  (entries.filter fun e => e.1 != name) ++ [(name, node)]

/-! ### Making files and directories -/

/-- What is at a place after a file or directory has been put there. -/
def replace (node : FileTree) : Option FileTree → FileTree
  | none => node
  | some (directory entries) => directory entries
  | some (file content) =>
    match node with
    | file content' => file content'
    | directory _ => file content

/-- Puts a file or directory at a place, given by the names that lead down to it from the root. -/
def put (node : FileTree) : (place : List String) → FileTree → FileTree
  | [], here => here
  | _ :: _, file content => file content
  | [name], directory entries =>
    directory (withEntry entries name (replace node (child? entries name)))
  | name :: place, directory entries =>
    directory (withEntry entries name (put node place ((child? entries name).getD empty)))

/-- The place a name leads to from another. -/
def goTo (place : List String) (name : String) : List String :=
  if name = "" ∨ name = "." then place
  else if name = ".." then place.dropLast
  else place ++ [name]

/-- Follows names from a place, making the directories that are not there. The place where they end
comes with the tree. -/
def makeWay : List String → (place : List String) → FileTree → List String × FileTree
  | [], place, t => (place, t)
  | name :: path, place, t => makeWay path (goTo place name) (put empty (goTo place name) t)

/-- The names in a path. -/
def names (path : String) : List String := path.splitOn "/"

/-- Puts a file at a path. -/
def putFile (path : String) (content : ByteArray) (t : FileTree) : FileTree :=
  let (place, t) := makeWay (names path).dropLast [] t
  put (file content) (goTo place ((names path).getLastD "")) t

/-- Puts a directory at a path. -/
def putDirectory (path : String) (t : FileTree) : FileTree := (makeWay (names path) [] t).2

/-! ### Reading -/

/-- Follows names from a directory or file, above which are the directories `above`. -/
def follow : List String → (here : FileTree) → (above : List FileTree) → Except Obstacle FileTree
  | [], here, _ => .ok here
  | _ :: _, file _, _ => .error .notADirectory
  | name :: path, directory entries, above =>
    if name = "" ∨ name = "." then follow path (directory entries) above
    else if name = ".." then
      match above with
      | [] => follow path (directory entries) []
      | up :: above => follow path up above
    else
      match child? entries name with
      | none => .error .notFound
      | some node => follow path node (directory entries :: above)

/-- What is at a path. There is nothing at the empty path. -/
def find (t : FileTree) (path : String) : Except Obstacle FileTree :=
  if path = "" then .error .notFound else follow (names path) t []

/-- The text of the file at a path. -/
def read (t : FileTree) (path : String) : Except Obstacle String :=
  match t.find path with
  | .error o => .error o
  | .ok (directory _) => .error .isADirectory
  | .ok (file content) => textOfBytes content

/-- The entry of a directory for a node. -/
def toEntry : FileTree → Entry
  | file content => .file (textOfBytes content)
  | directory _ => .directory

/-- The entries of the directory at a path. -/
def list (t : FileTree) (path : String) : Option (Except Obstacle Listing) :=
  match t.find path with
  | .error _ => none
  | .ok (file _) => some (.error .notADirectory)
  | .ok (directory entries) => some (.ok (entries.map fun e => (e.1, e.2.toEntry)))

/-- The tree as what can be read. -/
def storage (t : FileTree) : Storage := ⟨t.read, t.list⟩

end FileTree

end CardMachine
