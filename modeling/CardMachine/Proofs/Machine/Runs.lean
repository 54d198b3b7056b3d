import CardMachine.Machine.Run

/-! # Transitions and runs, case by case

What one transition can do is said once, in `Program.transition_cases`; what one call of
`Machine.step` can do, in `Machine.step_cases`. A run is a sequence of calls of `step`: `Runs n m l
m' t` says that with at most `n` transitions from `m` the snapshots are `l`, the machine ends as
`m'` and the run ends with `t`. There is always one (`exists_runs`), and `advance` takes it and
shows its snapshots to any observer (`Runs.advance_eq`), so what holds of all runs holds with and
without an observer. -/

namespace CardMachine

namespace Head

variable {head : Int64} {n i : Nat}

theorem index?_eq_some_iff : index? head n = some i ↔ (i : Int) = head.toInt ∧ i < n := by
  unfold index?
  split
  · rw [Option.some.injEq]
    omega
  · simp only [reduceCtorEq, false_iff]
    omega

theorem lt_of_index? (h : index? head n = some i) : i < n := (index?_eq_some_iff.mp h).2

theorem ofIndex_of_index? (h : index? head n = some i) : ofIndex i = head := by
  rw [ofIndex, (index?_eq_some_iff.mp h).1, Int64.ofIntClamp_toInt]

/-- A head on a tape is at the same cell of a longer tape. -/
theorem index?_of_le {n' : Nat} (h : index? head n = some i) (hn : n ≤ n') :
    index? head n' = some i := by
  obtain ⟨hi, hlt⟩ := index?_eq_some_iff.mp h
  exact index?_eq_some_iff.mpr ⟨hi, Nat.lt_of_lt_of_le hlt hn⟩

end Head

/-! ### The single transition -/

namespace Action

variable {a : Action} {tape : Array Symbol} {cell i : Nat} {x : Symbol}

theorem size_perform : (a.perform tape cell).tape.size = tape.size := Array.size_setIfInBounds

/-- An action writes to its cell. -/
theorem getElem?_perform_self (h : cell < tape.size) :
    (a.perform tape cell).tape[cell]? = some a.write :=
  Array.getElem?_setIfInBounds_self_of_lt h

/-- The other cells stay as they are. -/
theorem getElem?_perform_of_ne (h : i ≠ cell) : (a.perform tape cell).tape[i]? = tape[i]? :=
  Array.getElem?_setIfInBounds_ne (Ne.symm h)

/-- No symbol comes to the tape but the one that is written. -/
theorem mem_or_eq_of_mem_perform (h : x ∈ (a.perform tape cell).tape) : x ∈ tape ∨ x = a.write := by
  rw [perform, ← Array.mem_toList_iff, Array.toList_setIfInBounds] at h
  exact (List.mem_or_eq_of_mem_set h).imp_left Array.mem_toList_iff.mp

end Action

namespace Program

variable {p : Program} {c : Config}

/-- The cell under the head with the symbol in it and the action that is due there. -/
structure Due (p : Program) (c : Config) (cell : Nat) (scanned : Symbol) (action : Action) :
    Prop where
  card : ∃ card, p.card? c.state = some card ∧ card.get? scanned = some action
  index : Head.index? c.head c.tape.size = some cell
  symbol : c.tape[cell]? = some scanned

namespace Due

variable {cell : Nat} {x : Symbol} {a : Action}

theorem toInt_head (h : p.Due c cell x a) : c.head.toInt = cell :=
  (Head.index?_eq_some_iff.mp h.index).1.symm

theorem lt_size (h : p.Due c cell x a) : cell < c.tape.size := Head.lt_of_index? h.index

/-- The head moves from where it is. -/
theorem head_perform (h : p.Due c cell x a) :
    (a.perform c.tape cell).head = Head.move c.head a.step := by
  rw [Action.perform, Head.ofIndex_of_index? h.index]

end Due

/-- Why no action is due, in the order in which it is found out. -/
inductive Stuck (p : Program) (c : Config) : RunError → Prop where
  | unknownState (h : p.card? c.state = none) : Stuck p c (.unknownState c.state)
  | outOfBounds (card : Card) (hc : p.card? c.state = some card)
      (hi : Head.index? c.head c.tape.size = none) :
      Stuck p c (.outOfBounds c.head (.ofNat c.tape.size))
  | undefinedSymbol (card : Card) (cell : Nat) (scanned : Symbol)
      (hc : p.card? c.state = some card) (hi : Head.index? c.head c.tape.size = some cell)
      (hs : c.tape[cell]? = some scanned) (ha : card.get? scanned = none) :
      Stuck p c (.undefinedSymbol scanned (.ofNat cell))

/-- **What a transition does**: the action that is due, or nothing, with the reason why. -/
theorem transition_cases (p : Program) (c : Config) :
    (∃ cell scanned action, Due p c cell scanned action ∧
      p.transition c = .ok (action.perform c.tape cell)) ∨
    ∃ e, Stuck p c e ∧ p.transition c = .error e := by
  unfold transition due
  cases hc : p.card? c.state with
  | none => exact .inr ⟨_, .unknownState hc, rfl⟩
  | some card =>
    cases hi : Head.index? c.head c.tape.size with
    | none => exact .inr ⟨_, .outOfBounds card hc hi, rfl⟩
    | some cell =>
      have hlt := Head.lt_of_index? hi
      have hs := Array.getElem?_eq_getElem hlt
      cases ha : card.get? c.tape[cell] with
      | none =>
        refine .inr ⟨_, .undefinedSymbol card cell _ hc hi hs ha, ?_⟩
        simp [Card.action, hs, ha]
      | some action =>
        refine .inl ⟨cell, _, action, ⟨⟨card, hc, ha⟩, hi, hs⟩, ?_⟩
        simp [Card.action, hs, ha]

theorem due_of_transition_eq_ok {c' : Config} (h : p.transition c = .ok c') :
    ∃ cell scanned action, Due p c cell scanned action ∧ c' = action.perform c.tape cell := by
  rcases transition_cases p c with ⟨cell, x, a, hd, ht⟩ | ⟨e, -, ht⟩
  · rw [ht] at h; cases h; exact ⟨cell, x, a, hd, rfl⟩
  · rw [ht] at h; cases h

theorem transition_eq_ok_of_due {cell : Nat} {x : Symbol} {a : Action} (h : Due p c cell x a) :
    p.transition c = .ok (a.perform c.tape cell) := by
  obtain ⟨⟨card, hc, ha⟩, hi, hs⟩ := h
  unfold transition due
  simp only [hc, hi, Card.action, hs, ha]

theorem stuck_of_transition_eq_error {e : RunError} (h : p.transition c = .error e) :
    Stuck p c e := by
  rcases transition_cases p c with ⟨cell, x, a, -, ht⟩ | ⟨e', hs, ht⟩
  · rw [ht] at h; cases h
  · rw [ht] at h; cases h; exact hs

theorem transition_eq_error_of_stuck {e : RunError} (h : Stuck p c e) :
    p.transition c = .error e := by
  unfold transition due
  cases h with
  | unknownState hc => rw [hc]
  | outOfBounds card hc hi => simp only [hc, hi]
  | undefinedSymbol card cell x hc hi hs ha => simp only [hc, hi, Card.action, hs, ha]

/-- The length of the tape never changes. -/
theorem size_of_transition {c' : Config} (h : p.transition c = .ok c') :
    c'.tape.size = c.tape.size := by
  obtain ⟨cell, x, a, -, rfl⟩ := due_of_transition_eq_ok h
  exact Action.size_perform

end Program

/-! ### One call of `step` -/

namespace Machine

variable {m m' : Machine} {t : Termination} {l : List Snapshot} {n : Nat}

theorem step_of_termination (h : m.termination = some t) : m.step = (m, .stopped t) := by
  unfold step
  rw [h]

/-- **What `step` does**: nothing on a machine that has stopped, else the transition of the program
or, if there is none, the note of its failure. -/
theorem step_cases (m : Machine) :
    (∃ t, m.termination = some t ∧ m.step = (m, .stopped t)) ∨
    (m.termination = none ∧ ∃ c, m.program.transition m.config = .ok c ∧
      m.step = ({ m with config := c, steps := m.steps + 1 }, .moved)) ∨
    (m.termination = none ∧ ∃ e, m.program.transition m.config = .error e ∧
      m.step = ({ m with failure := some e }, .stopped (.failed e))) := by
  cases ht : m.termination with
  | some t => exact .inl ⟨t, rfl, step_of_termination ht⟩
  | none =>
    have hs := step_of_termination_eq_none ht
    cases hc : m.program.transition m.config with
    | ok c => rw [hc] at hs; exact .inr (.inl ⟨rfl, c, rfl, hs⟩)
    | error e => rw [hc] at hs; exact .inr (.inr ⟨rfl, e, rfl, hs⟩)

theorem termination_of_halted (h : m.config.state = m.halt) : m.termination = some .halted := by
  rw [termination, if_pos (by simpa [isHalted] using h)]

theorem termination_of_failure {e : RunError} (hh : m.config.state ≠ m.halt)
    (he : m.failure = some e) : m.termination = some (.failed e) := by
  rw [termination, if_neg (by simpa [isHalted] using hh), he]
  rfl

/-- A machine that has not stopped is not in its halting state and has no failure. -/
theorem termination_eq_none_iff :
    m.termination = none ↔ m.config.state ≠ m.halt ∧ m.failure = none := by
  unfold termination
  by_cases hh : m.config.state = m.halt <;> simp [isHalted, hh]

/-- A machine without a failure stops only in its halting state. -/
theorem halted_of_termination (h : m.termination = some t) (hf : m.failure = none) :
    m.config.state = m.halt ∧ t = .halted := by
  by_cases hh : m.config.state = m.halt
  · rw [termination_of_halted hh] at h
    exact ⟨hh, (Option.some.inj h).symm⟩
  · rw [termination_eq_none_iff.mpr ⟨hh, hf⟩] at h
    cases h

/-- A call that moves on takes the transition of the program. -/
theorem transition_of_moved (h : m.step = (m', .moved)) :
    m.termination = none ∧ ∃ c, m.program.transition m.config = .ok c ∧
      m' = { m with config := c, steps := m.steps + 1 } := by
  rcases step_cases m with ⟨t, -, hs⟩ | ⟨ht, c, hc, hs⟩ | ⟨-, e, -, hs⟩
  · rw [hs] at h; cases h
  · rw [hs] at h; cases h; exact ⟨ht, c, hc, rfl⟩
  · rw [hs] at h; cases h

/-- A call that stops leaves the configuration as it is; it has stopped before, or its transition
fails. -/
theorem transition_of_stopped (h : m.step = (m', .stopped t)) :
    (m.termination = some t ∧ m' = m) ∨
    (m.termination = none ∧ ∃ e, m.program.transition m.config = .error e ∧ t = .failed e ∧
      m' = { m with failure := some e }) := by
  rcases step_cases m with ⟨t', ht, hs⟩ | ⟨-, c, -, hs⟩ | ⟨ht, e, he, hs⟩
  · rw [hs] at h; cases h; exact .inl ⟨ht, rfl⟩
  · rw [hs] at h; cases h
  · rw [hs] at h; cases h; exact .inr ⟨ht, e, he, rfl, rfl⟩

theorem config_of_stopped (h : m.step = (m', .stopped t)) : m'.config = m.config := by
  rcases transition_of_stopped h with ⟨-, rfl⟩ | ⟨-, e, -, -, rfl⟩ <;> rfl

/-- After a call that stops the machine has stopped, in the way the call said. -/
theorem termination_of_stopped (h : m.step = (m', .stopped t)) : m'.termination = some t := by
  rcases transition_of_stopped h with ⟨ht, rfl⟩ | ⟨ht, e, -, rfl, rfl⟩
  · exact ht
  · exact termination_of_failure (termination_eq_none_iff.mp ht).1 rfl

/-! ### What calls of `step` keep -/

/-- The program, the states of a run and what `reset` restores stay. -/
theorem reset_step (m : Machine) : m.step.1.reset = m.reset := by
  rcases step_cases m with ⟨t, -, hs⟩ | ⟨-, c, -, hs⟩ | ⟨-, e, -, hs⟩ <;> rw [hs] <;> rfl

theorem eq_of_reset_eq (h : m'.reset = m.reset) : m'.program = m.program ∧ m'.halt = m.halt := by
  have hprogram : m'.reset.program = m.reset.program := by rw [h]
  have hhalt : m'.reset.halt = m.reset.halt := by rw [h]
  exact ⟨hprogram, hhalt⟩

theorem size_step (m : Machine) : m.step.1.config.tape.size = m.config.tape.size := by
  rcases step_cases m with ⟨t, -, hs⟩ | ⟨-, c, hc, hs⟩ | ⟨-, e, -, hs⟩ <;> rw [hs]
  exact Program.size_of_transition hc

/-- The failure of a machine, if it has one, is that of the transition from its configuration, which
is not halted. -/
def FailureDue (m : Machine) : Prop :=
  ∀ e, m.failure = some e →
    m.config.state ≠ m.halt ∧ m.program.transition m.config = .error e

theorem failureDue_of_none (h : m.failure = none) : m.FailureDue := by
  intro e he
  rw [h] at he
  cases he

theorem FailureDue.step (hm : m.FailureDue) : m.step.1.FailureDue := by
  rcases step_cases m with ⟨t, -, hs⟩ | ⟨ht, c, -, hs⟩ | ⟨ht, e, he, hs⟩
  · rw [hs]
    exact hm
  · rw [hs]
    exact failureDue_of_none (termination_eq_none_iff.mp ht).2
  · rw [hs]
    rintro e' ⟨⟩
    exact ⟨(termination_eq_none_iff.mp ht).1, he⟩

/-! ### Runs -/

/-- A run of at most `n` transitions: its snapshots, the machine after it and how it ended. -/
inductive Runs : Nat → Machine → List Snapshot → Machine → Termination → Prop where
  | spent (m : Machine) : Runs 0 m [] m (m.termination.getD .budgetExhausted)
  | stop {n : Nat} {m m' : Machine} {t : Termination} (h : m.step = (m', .stopped t)) :
      Runs (n + 1) m [] m' t
  | move {n : Nat} {m m₁ m' : Machine} {l : List Snapshot} {t : Termination}
      (h : m.step = (m₁, .moved)) (hr : Runs n m₁ l m' t) :
      Runs (n + 1) m (m₁.snapshot :: l) m' t

/-- **`advance` runs the machine**, and any observer sees the snapshots of the run. -/
theorem Runs.advance_eq {σ : Type} (see : σ → Snapshot → σ) (hr : Runs n m l m' t) :
    ∀ s : σ, advance see n m s = (m', t, l.foldl see s) := by
  induction hr with
  | spent m => exact fun s => rfl
  | stop h => intro s; rw [advance, h]; rfl
  | move h hr ih => intro s; rw [advance, h]; exact ih _

theorem Runs.watch_eq {budget : Nat} (hr : Runs (budget - m.steps) m l m' t) :
    m.watch budget = (m', t, l) := by
  have hl := hr.advance_eq (fun seen s => s :: seen) []
  simp [watch, runWith, hl]

theorem exists_runs : ∀ (n : Nat) (m : Machine), ∃ l m' t, Runs n m l m' t
  | 0, m => ⟨[], m, _, .spent m⟩
  | n + 1, m => by
    rcases hs : m.step with ⟨m₁, progress⟩
    cases progress with
    | stopped t => exact ⟨[], m₁, t, .stop hs⟩
    | moved =>
      obtain ⟨l, m', t, hr⟩ := exists_runs n m₁
      exact ⟨m₁.snapshot :: l, m', t, .move hs hr⟩

/-- **A run keeps what each call of `step` keeps**, and so do the machines it snapshots. -/
theorem Runs.invariant {I : Machine → Prop}
    (hstep : ∀ m, I m → I m.step.1) (hr : Runs n m l m' t) :
    I m → I m' ∧ ∀ x ∈ l, ∃ m₁, I m₁ ∧ x = m₁.snapshot := by
  induction hr with
  | spent m => exact fun hm => ⟨hm, by simp⟩
  | stop h => exact fun hm => ⟨by simpa [h] using hstep _ hm, by simp⟩
  | move h hr ih =>
    intro hm
    have hm₁ := hstep _ hm
    rw [h] at hm₁
    obtain ⟨hlast, hl⟩ := ih hm₁
    refine ⟨hlast, fun x hx => ?_⟩
    rcases List.mem_cons.mp hx with rfl | hx
    · exact ⟨_, hm₁, rfl⟩
    · exact hl x hx

/-- **The end of a run is read off the machine after it**, which has stopped so or, if it has not
stopped, has used up its budget. -/
theorem Runs.termination_eq (hr : Runs n m l m' t) :
    t = m'.termination.getD .budgetExhausted := by
  induction hr with
  | spent m => rfl
  | stop h => rw [termination_of_stopped h]; rfl
  | move h hr ih => exact ih

/-- A machine that has stopped stays as it is in a run with any budget. -/
theorem runs_of_termination (h : m.termination = some t) : ∀ n, Runs n m [] m t
  | 0 => by
    have hs := Runs.spent m
    rwa [h] at hs
  | n + 1 => .stop (step_of_termination h)

/-- A run has one snapshot for each transition. -/
theorem Runs.steps_eq (hr : Runs n m l m' t) : m'.steps = m.steps + l.length := by
  induction hr with
  | spent m => rfl
  | stop h => rcases transition_of_stopped h with ⟨-, rfl⟩ | ⟨-, e, -, -, rfl⟩ <;> rfl
  | move h hr ih =>
    obtain ⟨-, c, -, rfl⟩ := transition_of_moved h
    rw [ih, List.length_cons]
    dsimp only
    omega

theorem Runs.length_le (hr : Runs n m l m' t) : l.length ≤ n := by
  induction hr with
  | spent m => exact Nat.le_refl 0
  | stop h => exact Nat.zero_le _
  | move h hr ih => rw [List.length_cons]; omega

/-- A run that leaves the machine at work takes all its transitions. -/
theorem Runs.length_eq (hr : Runs n m l m' t) (ht : m'.termination = none) : l.length = n := by
  induction hr with
  | spent m => rfl
  | stop h => rw [termination_of_stopped h] at ht; cases ht
  | move h hr ih => rw [List.length_cons, ih ht]

/-- A run that finds a failure still had a transition to take. -/
theorem Runs.length_lt (hr : Runs n m l m' t) (hm : m.failure = none) (hm' : m'.failure ≠ none) :
    l.length < n := by
  induction hr with
  | spent m => exact absurd hm hm'
  | stop h => exact Nat.succ_pos _
  | move h hr ih =>
    obtain ⟨-, c, -, rfl⟩ := transition_of_moved h
    have := ih hm hm'
    rw [List.length_cons]
    omega

end Machine

/-! ### Runs of a program -/

namespace Program

section RunsOfPrograms

variable {p : Program} {tape : List Symbol} {head : Int64} {entry halt : StateId} {budget : UInt64}
  {l : List Snapshot} {m : Machine} {t : Termination}

theorem runWith_of_runs
    (hr : Machine.Runs budget.toNat ((Machine.start p tape head).withStates entry halt) l m t)
    {σ : Type} (see : σ → Snapshot → σ) (s : σ) :
    p.runWith tape head entry halt budget see s = (m.result t, l.foldl see s) := by
  have hm : ((Machine.start p tape head).withStates entry halt).runWith budget.toNat see s =
      (m, t, l.foldl see s) := hr.advance_eq see s
  unfold runWith
  rw [hm]

theorem run_of_runs
    (hr : Machine.Runs budget.toNat ((Machine.start p tape head).withStates entry halt) l m t) :
    p.run tape head entry halt budget = m.result t := by
  unfold run
  rw [runWith_of_runs hr]

theorem watch_of_runs
    (hr : Machine.Runs budget.toNat ((Machine.start p tape head).withStates entry halt) l m t) :
    p.watch tape head entry halt budget = (m.result t, l) := by
  unfold watch
  rw [runWith_of_runs hr]
  simp

end RunsOfPrograms

/-- **The run of a program** from given states. The result, with any observer, and the snapshots
that `watch` collects are those of one run of the machine. -/
theorem exists_runs (p : Program) (tape : List Symbol) (head : Int64) (entry halt : StateId)
    (budget : UInt64) : ∃ l m t,
    Machine.Runs budget.toNat ((Machine.start p tape head).withStates entry halt) l m t ∧
      (∀ (σ : Type) (see : σ → Snapshot → σ) (s : σ),
        p.runWith tape head entry halt budget see s = (m.result t, l.foldl see s)) ∧
      p.watch tape head entry halt budget = (m.result t, l) := by
  obtain ⟨l, m, t, hr⟩ := Machine.exists_runs budget.toNat
    ((Machine.start p tape head).withStates entry halt)
  exact ⟨l, m, t, hr, fun _ => runWith_of_runs hr, watch_of_runs hr⟩

/-- A run has the same result whether its snapshots are collected or not. -/
theorem watch_fst (p : Program) (tape : List Symbol) (head : Int64) (entry halt : StateId)
    (budget : UInt64) :
    (p.watch tape head entry halt budget).1 = p.run tape head entry halt budget := by
  obtain ⟨l, m, t, hr, -, hwatch⟩ := p.exists_runs tape head entry halt budget
  rw [hwatch, run_of_runs hr]

end Program

end CardMachine
