import CardMachine.Check.Basic
import CardMachine.Error
import CardMachine.Machine.Run

/-! # Tapes for a program, and what is refused

`Program.tapeProblems` lists what is wrong with a tape and a head position for a program. A program
is refused with an error for the first problem that it or its own tape has, and for the lack of a
tape of its own where it needs one. -/

namespace CardMachine

namespace Program

/-- What is wrong with a tape and a starting position for a program. -/
def tapeProblems (p : Program) (tape : List Symbol) (head : UInt64) : List Problem :=
  (if head.toNat < tape.length then [] else [.invalidHead head tape.length]) ++
    blame .invalidTapeSymbols (KeySet.ofList (tape.filter fun c => !p.declares c)).toList

/-- The first problem of a program and its own tape. -/
def firstProblem? (p : Program) : Option Problem :=
  (p.problems ++ (p.input.map fun i => p.tapeProblems i.cells i.head).getD []).head?

/-- Refuses a program for the first problem that it or its own tape has. -/
def ensureValid (p : Program) : Except Error Unit :=
  match p.firstProblem? with
  | none => .ok ()
  | some problem => .error (.refused (.problem problem))

end Program

/-- A machine on the program's own tape; a program without one is refused. -/
def Machine.ofInput (p : Program) : Except Error Machine :=
  match Machine.ofInput? p with
  | some m => .ok m
  | none => .error (.refused (.noOwnTape p.name))

end CardMachine
