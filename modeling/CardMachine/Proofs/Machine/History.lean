import CardMachine.Proofs.Machine.Runs

/-! # The history of a machine

The single transition, taken again and again from a first configuration, gives one sequence of
configurations (`Program.configAt`). Whatever is done with a machine after it has been built, its
configuration is the member of this sequence that its number of steps says (`Traces`): a call of
`step` goes on to the next member or, where there is none, notes why; a run is a sequence of such
calls; and `reset` goes back to the first member.

So two histories of a machine with the same number of steps end in the same configuration, with one
`step` after the other or with runs of any budgets, watched or not. -/

namespace CardMachine

/-- The configuration after `k` transitions, if they can be taken. -/
def Program.configAt (p : Program) (c : Config) : Nat → Except RunError Config
  | 0 => .ok c
  | k + 1 => p.configAt c k >>= p.transition

theorem Program.configAt_succ_eq_ok_iff {p : Program} {c e : Config} {k : Nat} :
    p.configAt c (k + 1) = .ok e ↔ ∃ d, p.configAt c k = .ok d ∧ p.transition d = .ok e := by
  rw [configAt]
  cases p.configAt c k with
  | error => exact ⟨nofun, nofun⟩
  | ok d => exact ⟨fun h => ⟨d, rfl, h⟩, fun ⟨_, rfl, h⟩ => h⟩

namespace Machine

variable {p : Program} {c : Config} {m m₀ : Machine}

/-! ### Machines and calls -/

/-- A machine as it is built, with its first configuration: on a given tape or on the program's own,
with the states of the program or with others. -/
inductive Built (p : Program) : Config → Machine → Prop where
  | start (tape : List Symbol) (head : Int64) :
      Built p ⟨tape.toArray, head, p.entry⟩ (start p tape head)
  | ofInput {i : Preset} {m : Machine} (hi : p.input = some i) (hm : ofInput? p = some m) :
      Built p ⟨i.cells.toArray, Head.ofIndex i.head.toNat, p.entry⟩ m
  | withStates {c : Config} {m : Machine} (hm : Built p c m) (entry halt : StateId) :
      Built p { c with state := entry } (m.withStates entry halt)

/-- A call that may change a machine; a run has a budget and an observer. -/
inductive Call : Type 1 where
  | step
  | run {σ : Type} (budget : Nat) (see : σ → Snapshot → σ) (s : σ)
  | reset

/-- The machine after a call. -/
def after (m : Machine) : Call → Machine
  | .step => m.step.1
  | .run budget see s => (m.runWith budget see s).1
  | .reset => m.reset

/-- **What `step` and `reset` keep, every call keeps**: a run is a sequence of calls of `step`. -/
theorem after_invariant {I : Machine → Prop} (hstep : ∀ m, I m → I m.step.1)
    (hreset : ∀ m, I m → I m.reset) (hm : I m) (call : Call) : I (m.after call) := by
  cases call with
  | step => exact hstep m hm
  | run budget see s =>
    obtain ⟨l, m', t, hr⟩ := exists_runs (budget - m.steps) m
    have he : (m.runWith budget see s).1 = m' := congrArg Prod.fst (hr.advance_eq see s)
    show I (m.runWith budget see s).1
    rw [he]
    exact (hr.invariant hstep hm).1
  | reset => exact hreset m hm

/-- Neither `step` nor a run changes the machine, and both say that it has ended so. -/
def Rests (m : Machine) (t : Termination) : Prop :=
  m.step = (m, .stopped t) ∧ ∀ (σ : Type) (budget : Nat) (see : σ → Snapshot → σ) (s : σ),
    m.runWith budget see s = (m, t, s)

/-- A machine that has just been built is as `reset` would leave it. -/
theorem Built.reset_eq (h : Built p c m) : m.reset = m ∧ m.program = p ∧ m.config = c := by
  induction h with
  | start tape head => exact ⟨rfl, rfl, rfl⟩
  | ofInput hi hm =>
    rw [ofInput?, hi] at hm
    cases hm
    exact ⟨rfl, rfl, rfl⟩
  | withStates hm entry halt ih =>
    obtain ⟨hreset, rfl, rfl⟩ := ih
    refine ⟨?_, rfl, rfl⟩
    rw [← hreset]
    rfl

/-! ### The invariant -/

/-- The machine `m` was built as `m₀`. Its configuration is that after as many transitions as it has
counted, and its failure that of the next. -/
structure Traces (m₀ m : Machine) : Prop where
  reset : m.reset = m₀
  config : m₀.program.configAt m₀.config m.steps = .ok m.config
  failure : m.FailureDue

theorem Traces.program_eq (hm : Traces m₀ m) : m.program = m₀.program := by
  rw [← hm.reset]
  rfl

theorem traces_self (h : m.reset = m) : Traces m m where
  reset := h
  config := by
    rw [← h]
    rfl
  failure := failureDue_of_none (by rw [← h]; rfl)

/-- **One call of `step` goes on along the sequence** or stays where it is. -/
theorem Traces.step (hm : Traces m₀ m) : Traces m₀ m.step.1 where
  reset := (reset_step m).trans hm.reset
  config := by
    rcases step_cases m with ⟨t, -, hs⟩ | ⟨-, c, hc, hs⟩ | ⟨-, e, -, hs⟩
    · rw [hs]
      exact hm.config
    · rw [hs]
      exact Program.configAt_succ_eq_ok_iff.mpr ⟨_, hm.config, hm.program_eq ▸ hc⟩
    · rw [hs]
      exact hm.config
  failure := hm.failure.step

/-- **A run goes on along the sequence**, and its snapshots are members of it. -/
theorem Traces.run (hm : Traces m₀ m) (budget : Nat) : ∃ l m' t,
    Runs (budget - m.steps) m l m' t ∧ Traces m₀ m' ∧
      ∀ x ∈ l, m₀.program.configAt m₀.config x.steps = .ok x.toConfig := by
  obtain ⟨l, m', t, hr⟩ := exists_runs (budget - m.steps) m
  obtain ⟨hm', hl⟩ := hr.invariant (fun _ h => h.step) hm
  refine ⟨l, m', t, hr, hm', fun x hx => ?_⟩
  obtain ⟨m₁, hm₁, rfl⟩ := hl x hx
  exact hm₁.config

theorem Traces.back (hm : Traces m₀ m) : Traces m₀ m.reset := by
  rw [hm.reset]
  exact traces_self (hm.reset ▸ rfl)

theorem Traces.after (hm : Traces m₀ m) (call : Call) : Traces m₀ (m.after call) :=
  after_invariant (fun _ h => h.step) (fun _ h => h.back) hm call

theorem Traces.foldl_after (hm : Traces m₀ m) : ∀ calls : List Call,
    Traces m₀ (calls.foldl Machine.after m) := by
  intro calls
  induction calls generalizing m with
  | nil => exact hm
  | cons call calls ih => exact ih (hm.after call)

theorem rests_of_termination {t : Termination} (h : m.termination = some t) : m.Rests t :=
  ⟨step_of_termination h, fun _ _ see s => (runs_of_termination h _).advance_eq see s⟩

/-! ### Every history -/

/-- **The number of steps of a machine says where it is.** After any sequence of calls the
configuration is that after as many transitions, and so are the snapshots of the next run; `reset`
gives the machine as it was built; a halted machine rests; a failure is that of the transition from
the configuration, which is not halted, and the machine rests with it; and if it neither halted nor
failed, the next `step` takes a transition or fails. -/
theorem configAt_steps_of_built (h : Built p c m₀) (calls : List Call) :
    let m := calls.foldl after m₀
    p.configAt c m.steps = .ok m.config ∧
    (∀ budget, ∀ x ∈ (m.watch budget).2.2, p.configAt c x.steps = .ok x.toConfig) ∧
    (m.reset = m₀ ∧ m.reset.config = c ∧ m.reset.steps = 0 ∧ m.reset.failure = none) ∧
    (m.config.state = m.halt → m.Rests .halted) ∧
    (∀ e, m.failure = some e →
      m.config.state ≠ m.halt ∧ p.transition m.config = .error e ∧ m.Rests (.failed e)) ∧
    (m.termination = none → m.step.1.steps = m.steps + 1 ∨ m.step.1.failure ≠ none) := by
  obtain ⟨hreset, rfl, rfl⟩ := h.reset_eq
  intro m
  have hm : Traces m₀ m := (traces_self hreset).foldl_after calls
  refine ⟨hm.config, fun budget x hx => ?_, ⟨hm.reset, ?_, rfl, rfl⟩, fun hh => ?_, fun e he => ?_,
    fun ht => ?_⟩
  · obtain ⟨l, m', t, hr, -, hl⟩ := hm.run budget
    rw [hr.watch_eq] at hx
    exact hl x hx
  · rw [hm.reset]
  · exact rests_of_termination (termination_of_halted hh)
  · obtain ⟨hh, ht⟩ := hm.failure e he
    rw [hm.program_eq] at ht
    exact ⟨hh, ht, rests_of_termination (termination_of_failure hh he)⟩
  · rcases step_cases m with ⟨t, ht', -⟩ | ⟨-, c, -, hs⟩ | ⟨-, e, -, hs⟩
    · rw [ht] at ht'
      cases ht'
    · exact .inl (by rw [hs])
    · exact .inr (by rw [hs]; simp)

end Machine

/-- A program that marks every cell from the head on and leaves the tape at its end. -/
def Program.sweeping : Program where
  name := "Sweeping"
  alphabet := KeySet.ofList ['a']
  markers := KeySet.ofList ['b']
  entry := 1
  halt := 0
  states := KeyMap.ofList [(0, .halting),
    (1, .executable (KeyMap.ofList [('a', { write := 'b', step := 1, next := 1 })]))]
  input := none

open Program in
theorem Machine.configAt_steps_sweeping :
    Built sweeping ⟨#['a', 'a'], 0, 1⟩ (start sweeping ['a', 'a'] 0) ∧
      let m :=
        [.step, .reset, .run 7 (fun n _ => n + 1) 0].foldl after (start sweeping ['a', 'a'] 0)
      m.failure = some (.outOfBounds 2 2) ∧
        sweeping.configAt ⟨#['a', 'a'], 0, 1⟩ m.steps = .ok m.config ∧
        m.Rests (.failed (.outOfBounds 2 2)) := by
  have hbuilt : Built sweeping ⟨#['a', 'a'], 0, 1⟩ (start sweeping ['a', 'a'] 0) := .start _ _
  obtain ⟨hconfig, -, -, -, hfailure, -⟩ := configAt_steps_of_built hbuilt
    [.step, .reset, .run 7 (fun n _ => n + 1) 0]
  exact ⟨hbuilt, by decide, hconfig, (hfailure _ (by decide)).2.2⟩

end CardMachine
