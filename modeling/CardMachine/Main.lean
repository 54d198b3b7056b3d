import CardMachine.Command.Report

/-! # The program

Reads the arguments, the files they name and the input, and writes the outcome. What it does with
them is decided in `Command.Plan` and `Command.Report`. -/

namespace CardMachine.Command

/-- What keeps something at a path from being read. -/
def obstacleOf (isDirectory : Bool) : IO.Error → Obstacle
  | .noFileOrDirectory .. => .notFound
  | .inappropriateType .. => if isDirectory then .isADirectory else .notADirectory
  | e => .other (toString e)

/-- The text of a file. -/
def readText (path : String) : IO (Except Obstacle String) := do
  if path.isEmpty then return .error .notFound
  let full := (← IO.currentDir) / path
  if ← full.isDir then return .error .isADirectory
  try return textOfBytes (← IO.FS.readBinFile full)
  catch e => return .error (obstacleOf false e)

/-- The entries of a directory with the texts of the files in it, or nothing if there is nothing at
the path. -/
def readListing (path : String) : IO (Option (Except Obstacle Listing)) := do
  if path.isEmpty then return none
  let full := (← IO.currentDir) / path
  unless ← full.pathExists do return none
  try
    let entries ← full.readDir
    let listing ← entries.toList.mapM fun entry => do
      if ← entry.path.isDir then return (entry.fileName, Entry.directory)
      else return (entry.fileName, Entry.file (← readText entry.path.toString))
    return some (.ok listing)
  catch e => return some (.error (obstacleOf false e))

/-- The files that the options name. -/
def readStorage (o : Options) : IO Storage := do
  let text ← match o.program with
    | none => pure (.error .notFound)
    | some path => readText path
  let listing ← match o.programsDir with
    | none => pure none
    | some path => readListing path
  return { read := fun _ => text, list := fun _ => listing }

/-- The input, if the options need it and it is no terminal. -/
def readInput (o : Options) : IO Input := do
  if o.list || o.program.isSome || o.name.isSome then return none
  let stdin ← IO.getStdin
  if ← stdin.isTty then return none
  return some (textOfBytes (← stdin.readBinToEnd))

/-- Writes an outcome. -/
def write (r : Report) : IO UInt32 := do
  IO.print r.out
  IO.eprint r.err
  return r.code

end CardMachine.Command

open CardMachine.Command in
def main (args : List String) : IO UInt32 := do
  match Options.ofArguments args with
  | .error stop => write stop.report
  | .ok o => write (execute o (← readStorage o) (← readInput o))
