import CardMachine.Command.Plan
import CardMachine.Json.Forms
import CardMachine.Json.Layout

/-! # What the command writes

The outcome of a command is its exit code and what it writes to the output and to the error output.
The code is 0 for success, 2 for a run whose budget is exhausted or for a mistake in the arguments,
and 1 otherwise. -/

namespace CardMachine.Command

/-- The outcome of a command. -/
structure Report where
  code : UInt32 := 0
  out : String := ""
  err : String := ""

/-- Lines with their ends. -/
def unlines (lines : List String) : String := String.join (lines.map (· ++ "\n"))

/-! ### Tapes and catalogs -/

/-- A tape with the cell under the head in brackets. -/
def showTape (tape : List Symbol) (head : Int64) : String :=
  String.ofList (tape.zipIdx.flatMap fun e =>
    if Head.ofIndex e.2 = head then ['[', e.1, ']'] else [' ', e.1, ' '])

/-- The line of a program in the list. -/
def summaryLine (s : Summary) : String :=
  s!"  {Text.padRight 20 s.name} {s.cards} states, {s.actions} actions, " ++
    s!"entry {s.entry}, halt {s.halt}"

/-- The line of a preset in the list. -/
def presetLine (p : Preset) : String :=
  s!"  {Text.padRight 20 p.name} {showTape p.cells (Head.ofIndex p.head.toNat)}"

/-- The lines that list a catalog. -/
def catalogLines (c : Catalog) : List String :=
  ["Programs:"] ++ (c.programs.zipIdx.map fun e => summaryLine (Catalog.summarize e.2 e.1)) ++
    ["", "Tape presets:"] ++ c.presets.map presetLine

/-! ### Runs -/

/-- How the result of a run is shown. -/
structure Style where
  trace : Bool
  json : Bool

/-- The line of a snapshot; the head position is shown as a number and as a mark on the tape. -/
def snapshotLine (steps : Nat) (state : StateId) (head : Int) (tape : String) : String :=
  "Step " ++ Text.padLeft 4 (toString steps) ++ "  state " ++ Text.padLeft 3 (toString state) ++
    "  head " ++ Text.padLeft 4 (toString head) ++ "  " ++ tape

/-- The lines of a trace: the start, then every snapshot. -/
def traceLines (j : Job) (seen : List Snapshot) : List String :=
  snapshotLine 0 j.program.entry j.head.toNat (showTape j.tape (Head.ofIndex j.head.toNat)) ::
    seen.map fun s => snapshotLine s.steps s.state s.head.toInt (showTape s.tape.toList s.head)

/-- The lines of a result. -/
def resultLines (r : RunResult) : List String :=
  ["", s!"Final tape:  {showTape r.tape r.head}", s!"Final head:  {r.head}",
    s!"Final state: {r.state}", s!"Steps taken: {r.steps}"]

/-- The lines that say how a run ended, unless it failed. -/
def endLines (j : Job) (r : RunResult) : List String :=
  match r.termination with
  | .halted => ["", s!"Machine halted (state {r.state})."]
  | .budgetExhausted => ["", s!"Step budget of {j.budget} exhausted."]
  | .failed _ => []

/-- The lines that say how a run failed. -/
def failureLines (r : RunResult) : List String :=
  match r.termination with
  | .failed e => ["", s!"Machine failed in state {r.state}: {e.message}"]
  | _ => []

/-- The exit code of a run. -/
def exitCode : Termination → UInt32
  | .halted => 0
  | .budgetExhausted => 2
  | .failed _ => 1

/-- The run of a job, with the snapshots of its transitions. -/
def Job.watch (j : Job) : RunResult × List Snapshot :=
  j.program.watch j.tape (Head.ofIndex j.head.toNat) j.program.entry j.program.halt j.budget

/-- The run of a job. -/
def Job.result (j : Job) : RunResult :=
  j.program.run j.tape (Head.ofIndex j.head.toNat) j.program.entry j.program.halt j.budget

/-- The lines that problems give. -/
def problemLines (problems : List Problem) : List String :=
  problems.map fun p => s!"Validation: {p.message}"

/-- The outcome of a run. -/
def runReport (style : Style) (j : Job) (problems : List Problem) : Report :=
  let r := j.result
  { code := exitCode r.termination
    out := unlines <|
      if style.json then [r.toJson.layout]
      else (if style.trace then traceLines j j.watch.2 else []) ++ resultLines r ++ endLines j r
    err := unlines (problemLines problems ++ failureLines r) }

/-! ### Commands -/

/-- The outcome of a plan. -/
def Plan.report (style : Style) : Plan → Report
  | fail error => { code := 1, err := unlines [s!"Error: {error.message}"] }
  | list catalog => { out := unlines (catalogLines catalog) }
  | check program problems =>
    if problems.isEmpty then { out := unlines [s!"Program '{program.name}' is valid."] }
    else { code := 1, err := unlines (problemLines problems) }
  | refuse problems =>
    { code := 1
      err := unlines (problemLines problems ++
        ["Refusing to run an invalid program (use --force to run anyway)."]) }
  | run job problems => runReport style job problems

/-- The name and the version of the command. -/
def versionLine : String := "tapecard-cli 0.0.1"

/-- The outcome of arguments that give no options. -/
def Stop.report : Stop → Report
  | mistake => { code := 2, err := unlines ["Usage: tapecard-cli [OPTIONS]"] }
  | help => { out := unlines ["Usage: tapecard-cli [OPTIONS]"] }
  | version => { out := unlines [versionLine] }

/-- The outcome of options. -/
def execute (o : Options) (s : Storage) (input : Input) : Report :=
  (o.plan s input).report { trace := o.trace, json := o.json }

end CardMachine.Command
