import CardMachine.Command.Report
import CardMachine.Proofs.Format.Resolve
import CardMachine.Proofs.Machine.Safety

/-! # The command runs what it checked

Which run the options ask for is said case by case: where the program comes from (`Options.Loads`),
where the tape comes from (`Options.Provides`), and what is put in their place (`Options.Asks`). A
run is started only if nothing else is asked for and the program and the tape, as they are run, have
no problems or the run is forced (`starts_iff`). So the checks are about the very program, tape and
head position of the run, and without force a run does not go wrong.

The exit code says what happened: 0 for a list, for a check without problems and for a run that
halts, 2 for a run that uses up its budget, 1 for all the rest (`execute_truthful`). -/

namespace CardMachine.Command

open Format (bind_eq_ok_iff mapError_eq_ok_iff)

variable {o : Options} {s : Storage} {input : Input} {j : Job}

namespace Options

/-! ### What is asked for -/

/-- The program is loaded: from a file, else from the catalog by its name, else from the input. -/
inductive Loads (o : Options) (s : Storage) (input : Input) : Program → Prop where
  | file {path text : String} {p : Program} (ho : o.program = some path)
      (hr : s.read path = .ok text) (hp : Program.ofText text = .ok p) : Loads o s input p
  | named {name : String} {p : Program} (ho : o.program = none) (hn : o.name = some name)
      (hp : (o.catalog s).program name = .ok p) : Loads o s input p
  | piped {text : String} {p : Program} (ho : o.program = none) (hn : o.name = none)
      (hi : input = some (.ok text)) (hp : Program.ofText text = .ok p) : Loads o s input p

/-- There is a tape with a head position: on the command line, else in the catalog by its name, else
in the program. -/
inductive Provides (o : Options) (s : Storage) (p : Program) : List Symbol → UInt64 → Prop where
  | given {text : String} {cells : List Symbol} (ht : o.tape = some text)
      (hc : tapeOfText text = .ok cells) : Provides o s p cells 0
  | preset {name : String} {x : Preset} (ht : o.tape = none) (hn : o.preset = some name)
      (hx : (o.catalog s).preset name = .ok x) : Provides o s p x.cells x.head
  | own {i : Preset} (ht : o.tape = none) (hn : o.preset = none) (hi : p.input = some i) :
      Provides o s p i.cells i.head

/-- The run that is asked for: the program that is loaded with its entry and halting states
replaced, the tape for it with its head position replaced, and the budget. -/
structure Asks (o : Options) (s : Storage) (input : Input) (j : Job) : Prop where
  program : ∃ p, o.Loads s input p ∧
    j.program = { p with entry := o.entry.getD p.entry, halt := o.halt.getD p.halt }
  tape : ∃ head, o.Provides s j.program j.tape head ∧ j.head = o.head.getD head
  budget : j.budget = o.maxSteps.getD defaultBudget

theorem loadProgram_eq_ok_iff {path : String} {p : Program} :
    s.loadProgram path = .ok p ↔ ∃ text, s.read path = .ok text ∧ Program.ofText text = .ok p := by
  simp only [Storage.loadProgram, loadText, bind_eq_ok_iff, mapError_eq_ok_iff]

theorem source_eq_ok_iff {p : Program} : o.source s input = .ok p ↔ o.Loads s input p := by
  constructor
  · intro h
    unfold source at h
    split at h
    · rename_i path ho
      obtain ⟨text, hr, hp⟩ := loadProgram_eq_ok_iff.mp h
      exact .file ho hr hp
    · rename_i name ho hn
      exact .named ho hn h
    · rename_i text ho hn
      exact .piped ho hn rfl h
    · cases h
    · cases h
  · intro h
    unfold source
    cases h with
    | file ho hr hp => simp only [ho, loadProgram_eq_ok_iff]; exact ⟨_, hr, hp⟩
    | named ho hn hp => simp only [ho, hn, hp]
    | piped ho hn hi hp => simp only [ho, hn, hi, hp]

theorem tapeSource_eq_ok_iff {p : Program} {cells : List Symbol} {head : UInt64} :
    o.tapeSource s p = .ok (cells, head) ↔ o.Provides s p cells head := by
  constructor
  · intro h
    unfold tapeSource at h
    split at h
    · rename_i text ht
      obtain ⟨cells, hc, h⟩ := bind_eq_ok_iff.mp h
      cases h
      exact .given ht hc
    · rename_i name ht hn
      obtain ⟨x, hx, h⟩ := bind_eq_ok_iff.mp h
      cases h
      exact .preset ht hn hx
    · rename_i i ht hn hi
      cases h
      exact .own ht hn hi
    · cases h
  · intro h
    unfold tapeSource
    cases h with
    | given ht hc => simp only [ht, hc]; rfl
    | preset ht hn hx => simp only [ht, hn, hx]; rfl
    | own ht hn hi => simp only [ht, hn, hi]

/-- **The planned run is the one that is asked for.** -/
theorem job_eq_ok_iff : o.job s input = .ok j ↔ o.Asks s input j := by
  simp only [job, bind_eq_ok_iff, source_eq_ok_iff]
  constructor
  · rintro ⟨p, hp, ⟨cells, head⟩, ht, h⟩
    cases h
    exact ⟨⟨p, hp, rfl⟩, ⟨head, tapeSource_eq_ok_iff.mp ht, rfl⟩, rfl⟩
  · rintro ⟨⟨p, hp, hprogram⟩, ⟨head, ht, hhead⟩, hbudget⟩
    obtain ⟨program, tape, _, _⟩ := j
    subst hprogram hhead hbudget
    exact ⟨p, hp, (tape, head), tapeSource_eq_ok_iff.mpr ht, rfl⟩

end Options

/-- Neither the program nor the tape of a run has a problem. -/
def Job.Clean (j : Job) : Prop :=
  j.program.problems = [] ∧ j.program.tapeProblems j.tape j.head = []

theorem Job.problems_eq_nil_iff : j.problems = [] ↔ j.Clean := List.append_eq_nil_iff

/-! ### What is done -/

namespace Options

theorem Asks.unique {j' : Job} (h : o.Asks s input j) (h' : o.Asks s input j') : j = j' := by
  have hjob := job_eq_ok_iff.mpr h
  rw [job_eq_ok_iff.mpr h'] at hjob
  cases hjob
  rfl

/-- What is planned: a list before all else; nothing without a program and a tape; else a check if
it is asked for, and a run if it may be made. -/
inductive Decides (o : Options) (s : Storage) (input : Input) : Plan → Prop where
  | list (hl : o.list = true) : Decides o s input (.list (o.catalog s))
  | fail (error : Error) (hl : o.list = false) (hno : ∀ j, ¬o.Asks s input j) :
      Decides o s input (.fail error)
  | check {j : Job} (hl : o.list = false) (hj : o.Asks s input j) (hc : o.check = true) :
      Decides o s input (.check j.program j.problems)
  | run {j : Job} (hl : o.list = false) (hj : o.Asks s input j) (hc : o.check = false)
      (hgo : j.Clean ∨ o.force = true) : Decides o s input (.run j j.problems)
  | refuse {j : Job} (hl : o.list = false) (hj : o.Asks s input j) (hc : o.check = false)
      (hno : ¬(j.Clean ∨ o.force = true)) : Decides o s input (.refuse j.problems)

theorem decides_plan (o : Options) (s : Storage) (input : Input) :
    o.Decides s input (o.plan s input) := by
  unfold plan
  split
  · rename_i hl
    exact .list hl
  rename_i hl
  have hl : o.list = false := by simpa using hl
  split
  · rename_i e hjob
    refine .fail e hl fun j hj => ?_
    rw [job_eq_ok_iff.mpr hj] at hjob
    cases hjob
  rename_i j hjob
  have hj := job_eq_ok_iff.mp hjob
  split
  · rename_i hc
    exact .check hl hj hc
  rename_i hc
  have hc : o.check = false := by simpa using hc
  have hgo : (j.problems.isEmpty || o.force) = true ↔ j.Clean ∨ o.force = true := by
    rw [Bool.or_eq_true, List.isEmpty_iff, Job.problems_eq_nil_iff]
  split
  · rename_i h
    exact .run hl hj hc (hgo.mp h)
  · rename_i h
    exact .refuse hl hj hc (mt hgo.mpr h)

/-- Whether a run is started. -/
def Starts (o : Options) (s : Storage) (input : Input) (j : Job) : Prop :=
  ∃ problems, o.plan s input = .run j problems

/-- **When a run is started**, and which. -/
theorem starts_iff : o.Starts s input j ↔
    o.list = false ∧ o.check = false ∧ o.Asks s input j ∧ (j.Clean ∨ o.force = true) := by
  have hplan := o.decides_plan s input
  unfold Starts
  generalize o.plan s input = plan at hplan
  cases hplan with
  | list hl => exact ⟨nofun, fun h => by rw [hl] at h; cases h.1⟩
  | fail e hl hno => exact ⟨nofun, fun h => absurd h.2.2.1 (hno j)⟩
  | check hl hj hc => exact ⟨nofun, fun h => by rw [hc] at h; cases h.2.1⟩
  | run hl hj hc hgo =>
    constructor
    · rintro ⟨problems, ⟨⟩⟩
      exact ⟨hl, hc, hj, hgo⟩
    · rintro ⟨-, -, hj', -⟩
      cases hj.unique hj'
      exact ⟨_, rfl⟩
  | refuse hl hj hc hno =>
    refine ⟨nofun, ?_⟩
    rintro ⟨-, -, hj', hgo⟩
    cases hj.unique hj'
    exact absurd hgo hno

end Options

/-- The outcome of a run that is started shows that run. -/
theorem execute_of_starts (h : o.Starts s input j) :
    execute o s input = runReport { trace := o.trace, json := o.json } j j.problems := by
  obtain ⟨problems, hrun⟩ := h
  have hplan := o.decides_plan s input
  rw [hrun] at hplan
  unfold execute
  rw [hrun]
  cases hplan
  rfl

/-- The transitions that are shown are those of the run whose result is shown. -/
theorem Job.watch_fst (j : Job) : j.watch.1 = j.result := j.program.watch_fst _ _ _ _ _

/-! ### The exit code -/

theorem exitCode_eq_zero_iff {t : Termination} : exitCode t = 0 ↔ t = .halted := by
  cases t <;> simp [exitCode]

theorem exitCode_eq_two_iff {t : Termination} : exitCode t = 2 ↔ t = .budgetExhausted := by
  cases t <;> simp [exitCode]

theorem code_check (style : Style) (j : Job) :
    ((Plan.check j.program j.problems).report style).code = 0 ∧ j.Clean ∨
      ((Plan.check j.program j.problems).report style).code = 1 ∧ ¬j.Clean := by
  rw [← Job.problems_eq_nil_iff, ← List.isEmpty_iff]
  cases h : j.problems.isEmpty <;> simp [Plan.report, h]

theorem code_report (style : Style) (plan : Plan) :
    (plan.report style).code = 0 ∨ (plan.report style).code = 1 ∨ (plan.report style).code = 2 := by
  cases plan with
  | fail e => exact .inr (.inl rfl)
  | list c => exact .inl rfl
  | check p problems => cases h : problems.isEmpty <;> simp [Plan.report, h]
  | refuse problems => exact .inr (.inl rfl)
  | run j problems =>
    show exitCode j.result.termination = 0 ∨ exitCode j.result.termination = 1 ∨
      exitCode j.result.termination = 2
    cases j.result.termination with
    | halted => exact .inl rfl
    | budgetExhausted => exact .inr (.inr rfl)
    | failed e => exact .inr (.inl rfl)

/-- A command succeeds if it lists, or checks and finds no problem, or runs and halts. -/
theorem code_eq_zero_iff : (execute o s input).code = 0 ↔ o.list = true ∨
    (o.check = true ∧ ∃ j, o.Asks s input j ∧ j.Clean) ∨
    ∃ j, o.Starts s input j ∧ j.result.termination = .halted := by
  have hplan := o.decides_plan s input
  unfold execute Options.Starts
  generalize o.plan s input = plan at hplan ⊢
  cases hplan with
  | list hl => exact ⟨fun _ => .inl hl, fun _ => rfl⟩
  | fail e hl hno =>
    refine ⟨fun h => absurd h (show (1 : UInt32) ≠ 0 by decide), ?_⟩
    rintro (h | ⟨-, j, hj, -⟩ | ⟨j, ⟨problems, ⟨⟩⟩, -⟩)
    · rw [hl] at h; cases h
    · exact absurd hj (hno j)
  | @check j hl hj hc =>
    rcases code_check { trace := o.trace, json := o.json } j with ⟨hcode, hclean⟩ | ⟨hcode, hclean⟩
    · exact ⟨fun _ => .inr (.inl ⟨hc, j, hj, hclean⟩), fun _ => hcode⟩
    · refine ⟨fun h => absurd (hcode.symm.trans h) (by decide), ?_⟩
      rintro (h | ⟨-, j', hj', hclean'⟩ | ⟨j', ⟨problems, ⟨⟩⟩, -⟩)
      · rw [hl] at h; cases h
      · cases hj.unique hj'
        exact absurd hclean' hclean
  | @run j hl hj hc hgo =>
    constructor
    · intro h
      exact .inr (.inr ⟨j, ⟨_, rfl⟩, exitCode_eq_zero_iff.mp h⟩)
    · rintro (h | ⟨h, -⟩ | ⟨j', ⟨problems, ⟨⟩⟩, ht⟩)
      · rw [hl] at h; cases h
      · rw [hc] at h; cases h
      · exact exitCode_eq_zero_iff.mpr ht
  | refuse hl hj hc hno =>
    refine ⟨fun h => absurd h (show (1 : UInt32) ≠ 0 by decide), ?_⟩
    rintro (h | ⟨h, -⟩ | ⟨j, ⟨problems, ⟨⟩⟩, -⟩)
    · rw [hl] at h; cases h
    · rw [hc] at h; cases h

theorem code_eq_two_iff : (execute o s input).code = 2 ↔
    ∃ j, o.Starts s input j ∧ j.result.termination = .budgetExhausted := by
  have hplan := o.decides_plan s input
  unfold execute Options.Starts
  generalize o.plan s input = plan at hplan ⊢
  -- a plan other than a run neither starts one nor has this code
  cases hplan with
  | list hl => exact ⟨fun h => absurd h (show (0 : UInt32) ≠ 2 by decide), nofun⟩
  | fail e hl hno => exact ⟨fun h => absurd h (show (1 : UInt32) ≠ 2 by decide), nofun⟩
  | @check j hl hj hc =>
    refine ⟨fun h => ?_, nofun⟩
    rcases code_check { trace := o.trace, json := o.json } j with ⟨hcode, -⟩ | ⟨hcode, -⟩ <;>
      exact absurd (hcode.symm.trans h) (by decide)
  | @run j hl hj hc hgo =>
    constructor
    · intro h
      exact ⟨j, ⟨_, rfl⟩, exitCode_eq_two_iff.mp h⟩
    · rintro ⟨j', ⟨problems, ⟨⟩⟩, ht⟩
      exact exitCode_eq_two_iff.mpr ht
  | refuse hl hj hc hno => exact ⟨fun h => absurd h (show (1 : UInt32) ≠ 2 by decide), nofun⟩

/-! ### Runs without force -/

/-- Without force a run ends as the checks allow. -/
theorem allows_of_starts (hforce : o.force = false) (h : o.Starts s input j) :
    j.program.Allows j.result.termination := by
  obtain ⟨-, -, -, hgo⟩ := Options.starts_iff.mp h
  obtain ⟨hproblems, htape⟩ := hgo.resolve_right (by simp [hforce])
  have hclosed := Program.closed_of_problems_eq_nil hproblems
  exact Program.allows_run hclosed (Program.fits_of_tapeProblems_eq_nil hclosed htape) _ _

/-- **The command runs what it checked, and its exit code is true.** A run is started if and only if
neither a list nor a check is asked for, and the program and the tape that are asked for can be had
and have no problems or the run is forced; the outcome shows that run. The code is 0 if the command
succeeds, 2 if a run uses up its budget, and 1 otherwise. Without force no run ends in a state
without a card, or on a symbol of the alphabet that has no action. -/
theorem execute_truthful (o : Options) (s : Storage) (input : Input) :
    (∀ j, o.Starts s input j ↔
      o.list = false ∧ o.check = false ∧ o.Asks s input j ∧ (j.Clean ∨ o.force = true)) ∧
    (∀ j, o.Starts s input j →
      execute o s input = runReport { trace := o.trace, json := o.json } j j.problems ∧
      j.result = j.program.run j.tape (Head.ofIndex j.head.toNat) j.program.entry j.program.halt
        j.budget ∧ j.watch.1 = j.result) ∧
    ((execute o s input).code = 0 ↔ o.list = true ∨
      (o.check = true ∧ ∃ j, o.Asks s input j ∧ j.Clean) ∨
      ∃ j, o.Starts s input j ∧ j.result.termination = .halted) ∧
    ((execute o s input).code = 2 ↔
      ∃ j, o.Starts s input j ∧ j.result.termination = .budgetExhausted) ∧
    ((execute o s input).code ≠ 0 → (execute o s input).code ≠ 2 →
      (execute o s input).code = 1) ∧
    (o.force = false → ∀ j, o.Starts s input j →
      (∀ state, j.result.termination ≠ .failed (.unknownState state)) ∧
      ∀ c cell, j.result.termination = .failed (.undefinedSymbol c cell) →
        j.program.alphabet.contains c = false) := by
  refine ⟨fun j => Options.starts_iff, fun j hj => ⟨execute_of_starts hj, rfl, j.watch_fst⟩,
    code_eq_zero_iff, code_eq_two_iff, fun h₀ h₂ => ?_, fun hforce j hj => ⟨fun state ht => ?_, ?_⟩⟩
  · rcases code_report { trace := o.trace, json := o.json } (o.plan s input) with h | h | h
    · exact absurd h h₀
    · exact h
    · exact absurd h h₂
  · have hallows := allows_of_starts hforce hj
    rw [ht] at hallows
    exact hallows
  · intro c cell ht
    have hallows := allows_of_starts hforce hj
    rw [ht] at hallows
    exact hallows.2

/-- A program that is piped in; it has no card for the state that it goes to. -/
def onwardText : String := "name: x\ntape: a\ncards:\n1:\na -> a, +1, 2"

/-- The run of this program, if it is to halt in that state. -/
def onward : Job where
  program :=
    { name := "x"
      alphabet := KeySet.ofList ['a']
      markers := ∅
      entry := 1
      halt := 2
      states := KeyMap.empty.insert 1
        (.executable (KeyMap.empty.insert 'a' { write := 'a', step := 1, next := 2 }))
      input := some { name := "x", cells := ['a'], head := 0 } }
  tape := ['a']
  head := 0
  budget := 20

/-- A storage without files. -/
def noFiles : Storage := ⟨fun _ => .error .notFound, fun _ => none⟩

theorem execute_truthful_onward :
    ({ halt := some 2 } : Options).Starts noFiles (some (.ok onwardText)) onward ∧
      (execute { halt := some 2 } noFiles (some (.ok onwardText))).code = 0 := by
  obtain ⟨hstarts, -, hzero, -⟩ :=
    execute_truthful { halt := some 2 } noFiles (some (.ok onwardText))
  have hloads : ({ halt := some 2 } : Options).Loads noFiles (some (.ok onwardText))
      { onward.program with halt := 0 } := .piped rfl rfl rfl rfl
  have htape : ({ halt := some 2 } : Options).Provides noFiles onward.program ['a'] 0 :=
    Options.Provides.own (i := { name := "x", cells := ['a'], head := 0 }) rfl rfl rfl
  have hstart := (hstarts onward).mpr
    ⟨rfl, rfl, ⟨⟨_, hloads, rfl⟩, ⟨0, htape, rfl⟩, rfl⟩, .inl ⟨by decide, by decide⟩⟩
  exact ⟨hstart, hzero.mpr (.inr (.inr ⟨onward, hstart, by decide⟩))⟩

-- without the option the run is refused
example : (execute {} noFiles (some (.ok onwardText))).code = 1 := by decide

end CardMachine.Command
