import CardMachine.Check.Problem
import CardMachine.Format.Diagnostic
import CardMachine.Machine.Transition

/-! # Errors

An error is a cause; its wording is in `Error.message` and nowhere else. -/

namespace CardMachine

/-- The message of a failed transition. -/
def RunError.message : RunError → String
  | undefinedSymbol symbol cell =>
    s!"No action defined for symbol {Text.quoted symbol} at cell {cell}"
  | unknownState state => s!"Unknown state: {state}"
  | outOfBounds head length => s!"Head position {head} is outside the tape (length {length})"

/-- Texts of programs and presets may not be larger than this many bytes. -/
def sizeLimit : Nat := 65536

/-- Why something that can be read is refused. -/
inductive Refusal where
  /-- The text is larger than the limit. -/
  | tooLarge (bytes : Nat)
  /-- Something is missing in the text of a program. -/
  | incomplete (omission : Format.Omission)
  /-- The program or its tape has a problem. -/
  | problem (problem : Problem)
  /-- The program has no tape of its own. -/
  | noOwnTape (program : String)
  /-- The program has no tape of its own and none is given. -/
  | noTapeGiven (program : String)
  /-- There is no program to run. -/
  | noProgramGiven
  | unknownProgram (name : String)
  | indexOutOfRange (index : Nat)
  | unknownPreset (name : String)

/-- The message of a refusal. -/
def Refusal.message : Refusal → String
  | tooLarge bytes => s!"Input is {bytes} bytes, the limit is {sizeLimit}"
  | incomplete omission => omission.message
  | problem p => p.message
  | noOwnTape program => s!"Program '{program}' does not declare a tape"
  | noTapeGiven program => s!"Program '{program}' has no tape: use --tape or --preset"
  | noProgramGiven => "No program given: use --program, --name or pipe a program (see --list)"
  | unknownProgram name => s!"Program '{name}' not found"
  | indexOutOfRange index => s!"Program index {index} out of range"
  | unknownPreset name => s!"Preset '{name}' not found"

/-- Why a file or a directory cannot be read. -/
inductive Obstacle where
  | notFound
  | notADirectory
  | isADirectory
  | invalidText
  | other (message : String)
  deriving DecidableEq

/-- The message of an obstacle. -/
def Obstacle.message : Obstacle → String
  | notFound => "No such file or directory (os error 2)"
  | notADirectory => "Not a directory (os error 20)"
  | isADirectory => "Is a directory (os error 21)"
  | invalidText => "stream did not contain valid UTF-8"
  | other message => message

/-- What goes wrong with files. -/
inductive FileError where
  | noDirectory (path : String)
  | unlistable (path : String) (obstacle : Obstacle)
  | unreadable (path : String) (obstacle : Obstacle)
  | unreadableInput (obstacle : Obstacle)

/-- The message of a file error. -/
def FileError.message : FileError → String
  | noDirectory path => s!"Directory {path} does not exist"
  | unlistable path obstacle => s!"Failed to read directory {path}: {obstacle.message}"
  | unreadable path obstacle => s!"Failed to read file {path}: {obstacle.message}"
  | unreadableInput obstacle => s!"Failed to read from stdin: {obstacle.message}"

/-- Any error. -/
inductive Error where
  | run (error : RunError)
  | parse (diagnostic : Format.Diagnostic)
  | refused (refusal : Refusal)
  | file (error : FileError)
  /-- A program file of a directory cannot be loaded. -/
  | unloadable (path : String) (cause : Error)

/-- The message of an error. -/
def Error.message : Error → String
  | run e => s!"Run error: {e.message}"
  | parse d => s!"Program parsing error: {d.render}"
  | refused r => s!"Program validation error: {r.message}"
  | file f => s!"File error: {f.message}"
  | unloadable path cause => s!"File error: Failed to load program from {path}: {cause.message}"

end CardMachine
