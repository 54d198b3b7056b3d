import CardMachine.Catalog.BuiltIn
import CardMachine.Check.Refuse
import CardMachine.Command.Options
import CardMachine.Files.Storage

/-! # What a command line asks for

The program comes from a file, from the catalog or from the input, in this order; its entry and
halting states may be replaced. The tape comes from the command line, from the catalog or from the
program, and the head position may be replaced. Program and tape are checked together, and a run is
planned only if there is no problem or it is forced. -/

namespace CardMachine.Command

/-- A run to be made. -/
structure Job where
  program : Program
  tape : List Symbol
  head : UInt64
  budget : UInt64

/-- What is to be done. -/
inductive Plan where
  /-- The program or the tape cannot be had. -/
  | fail (error : Error)
  /-- Show what is in the catalog. -/
  | list (catalog : Catalog)
  /-- Say whether there are problems. -/
  | check (program : Program) (problems : List Problem)
  /-- Do not run, because of problems. -/
  | refuse (problems : List Problem)
  /-- Run, with or without problems. -/
  | run (job : Job) (problems : List Problem)

/-- The number of transitions a run may take if none is given. -/
def defaultBudget : UInt64 := 20

/-- The input of the command: nothing if it is a terminal. -/
abbrev Input := Option (Except Obstacle String)

namespace Options

/-- The built-in catalog with the programs of the given directory. Files that cannot be loaded are
left out. -/
def catalog (o : Options) (s : Storage) : Catalog :=
  match o.programsDir with
  | none => Catalog.builtIn
  | some directory => (Catalog.builtIn.extendFrom s directory).1

/-- The program as it is loaded. -/
def source (o : Options) (s : Storage) (input : Input) : Except Error Program :=
  match o.program, o.name, input with
  | some path, _, _ => s.loadProgram path
  | none, some name, _ => (o.catalog s).program name
  | none, none, some (.ok text) => Program.ofText text
  | none, none, some (.error obstacle) => .error (.file (.unreadableInput obstacle))
  | none, none, none => .error (.refused .noProgramGiven)

/-- The program with the entry and halting states that are asked for. -/
def restate (o : Options) (p : Program) : Program :=
  { p with entry := o.entry.getD p.entry, halt := o.halt.getD p.halt }

/-- The tape and its own head position. -/
def tapeSource (o : Options) (s : Storage) (p : Program) : Except Error (List Symbol × UInt64) :=
  match o.tape, o.preset, p.input with
  | some text, _, _ => do return (← tapeOfText text, 0)
  | none, some name, _ => do
    let preset ← (o.catalog s).preset name
    return (preset.cells, preset.head)
  | none, none, some i => .ok (i.cells, i.head)
  | none, none, none => .error (.refused (.noTapeGiven p.name))

/-- The run that is asked for, whether or not it is to be made. -/
def job (o : Options) (s : Storage) (input : Input) : Except Error Job := do
  let program := o.restate (← o.source s input)
  let (tape, head) ← o.tapeSource s program
  return { program, tape, head := o.head.getD head, budget := o.maxSteps.getD defaultBudget }

end Options

/-- The problems of the program and the tape of a run. -/
def Job.problems (j : Job) : List Problem :=
  j.program.problems ++ j.program.tapeProblems j.tape j.head

/-- What the options ask for. -/
def Options.plan (o : Options) (s : Storage) (input : Input) : Plan :=
  if o.list then .list (o.catalog s)
  else
    match o.job s input with
    | .error e => .fail e
    | .ok job =>
      if o.check then .check job.program job.problems
      else if job.problems.isEmpty || o.force then .run job job.problems
      else .refuse job.problems

end CardMachine.Command
