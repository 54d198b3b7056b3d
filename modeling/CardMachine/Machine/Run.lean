import CardMachine.Machine.Transition

/-! # Machines and runs

A machine is a program at work: a configuration, the number of transitions taken since the start,
and the failure that stopped it, if one did. A failure stays until the machine is reset.

A budget is the total number of transitions a machine may have taken, so a run with a budget takes
at most `budget - steps` of them. An observer of a run is a fold over the snapshots after each
transition; `runWith` carries it along and `watch` collects the snapshots. -/

namespace CardMachine

/-- How a run ended. -/
inductive Termination where
  | halted
  | budgetExhausted
  | failed (error : RunError)
  deriving DecidableEq

/-- What one call of `Machine.step` did. -/
inductive Progress where
  | moved
  | stopped (termination : Termination)
  deriving DecidableEq

/-- A configuration and the number of transitions that led to it. -/
structure Snapshot extends Config where
  steps : Nat
  deriving DecidableEq

/-- A finished run. -/
structure RunResult where
  tape : List Symbol
  head : Int64
  state : StateId
  steps : UInt64
  termination : Termination
  deriving DecidableEq

/-- A program at work on a tape. -/
structure Machine where
  program : Program
  config : Config
  entry : StateId
  halt : StateId
  steps : Nat
  failure : Option RunError
  /-- The tape that `reset` restores. -/
  firstTape : Array Symbol
  /-- The head position that `reset` restores. -/
  firstHead : Int64
  deriving DecidableEq

namespace Machine

/-- A machine in the program's entry state. -/
def start (p : Program) (tape : List Symbol) (head : Int64) : Machine where
  program := p
  config := { tape := tape.toArray, head, state := p.entry }
  entry := p.entry
  halt := p.halt
  steps := 0
  failure := none
  firstTape := tape.toArray
  firstHead := head

/-- A machine on the program's own tape, if it has one. -/
def ofInput? (p : Program) : Option Machine :=
  p.input.map fun i => start p i.cells (Head.ofIndex i.head.toNat)

/-- Chooses the entry and halting states and goes to the entry state. Tape, head, number of steps
and failure stay. -/
def withStates (m : Machine) (entry halt : StateId) : Machine :=
  { m with entry, halt, config := { m.config with state := entry } }

/-- Back to the first tape, the first head position and the entry state. -/
def reset (m : Machine) : Machine :=
  { m with
    config := { tape := m.firstTape, head := m.firstHead, state := m.entry }
    steps := 0
    failure := none }

/-- Whether the machine is in its halting state. -/
def isHalted (m : Machine) : Bool := m.config.state == m.halt

/-- How the machine has stopped, if it has. -/
def termination (m : Machine) : Option Termination :=
  if m.isHalted then some .halted else m.failure.map .failed

/-- The symbol under the head, if the head is on the tape. -/
def symbol? (m : Machine) : Option Symbol :=
  (Head.index? m.config.head m.config.tape.size).bind (m.config.tape[·]?)

/-- The action for the state and the symbol under the head; a halted machine has none. -/
def action? (m : Machine) : Option Action :=
  if m.isHalted then none
  else do (← m.program.card? m.config.state).get? (← m.symbol?)

/-- The configuration with the number of transitions taken. -/
def snapshot (m : Machine) : Snapshot := { m.config with steps := m.steps }

/-- Takes one transition, unless the machine has stopped. -/
def step (m : Machine) : Machine × Progress :=
  match m.termination with
  | some t => (m, .stopped t)
  | none =>
    match m.program.due m.config with
    | .ok (cell, action) =>
      ({ m with config := action.perform m.config.tape cell, steps := m.steps + 1 }, .moved)
    | .error e => ({ m with failure := some e }, .stopped (.failed e))

/-- A machine that has not stopped takes the transition of its program. -/
theorem step_of_termination_eq_none {m : Machine} (h : m.termination = none) :
    m.step = match m.program.transition m.config with
      | .ok c => ({ m with config := c, steps := m.steps + 1 }, .moved)
      | .error e => ({ m with failure := some e }, .stopped (.failed e)) := by
  unfold step Program.transition
  rw [h]
  cases m.program.due m.config <;> rfl

variable {σ : Type}

/-- Takes up to `n` transitions, showing the snapshot after each to the observer `see`. -/
def advance (see : σ → Snapshot → σ) : Nat → Machine → σ → Machine × Termination × σ
  | 0, m, s => (m, m.termination.getD .budgetExhausted, s)
  | n + 1, m, s =>
    match m.step with
    | (m', .moved) => advance see n m' (see s m'.snapshot)
    | (m', .stopped t) => (m', t, s)

/-- Runs until the machine stops or has taken `budget` transitions since its start. -/
def runWith (m : Machine) (budget : Nat) (see : σ → Snapshot → σ) (s : σ) :
    Machine × Termination × σ :=
  advance see (budget - m.steps) m s

/-- A run without observer. -/
def run (m : Machine) (budget : Nat) : Machine × Termination :=
  let (m', t, _) := m.runWith budget (fun _ _ => ()) ()
  (m', t)

/-- A run with the snapshots after each of its transitions. -/
def watch (m : Machine) (budget : Nat) : Machine × Termination × List Snapshot :=
  let (m', t, seen) := m.runWith budget (fun seen s => s :: seen) []
  (m', t, seen.reverse)

/-- The machine's configuration as the result of a run that ended so. -/
def result (m : Machine) (t : Termination) : RunResult where
  tape := m.config.tape.toList
  head := m.config.head
  state := m.config.state
  steps := .ofNat m.steps
  termination := t

end Machine

namespace Program

variable {σ : Type}

/-- Runs a program from given states, with an observer. -/
def runWith (p : Program) (tape : List Symbol) (head : Int64) (entry halt : StateId)
    (budget : UInt64) (see : σ → Snapshot → σ) (s : σ) : RunResult × σ :=
  let (m, t, s') := ((Machine.start p tape head).withStates entry halt).runWith budget.toNat see s
  (m.result t, s')

/-- Runs a program from given states. -/
def run (p : Program) (tape : List Symbol) (head : Int64) (entry halt : StateId)
    (budget : UInt64) : RunResult :=
  (p.runWith tape head entry halt budget (fun _ _ => ()) ()).1

/-- Runs a program from given states and collects the snapshots after each transition. -/
def watch (p : Program) (tape : List Symbol) (head : Int64) (entry halt : StateId)
    (budget : UInt64) : RunResult × List Snapshot :=
  let (r, seen) := p.runWith tape head entry halt budget (fun seen s => s :: seen) []
  (r, seen.reverse)

end Program

end CardMachine
