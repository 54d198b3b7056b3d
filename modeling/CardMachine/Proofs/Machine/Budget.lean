import CardMachine.Proofs.Machine.Runs

/-! # Runs with a budget

A budget counts the transitions since the start of a machine, not those of one call. So a run goes
on where the one before it ended: two runs, one after the other, are one run with the larger of the
two budgets (`Runs.total`). A machine that has halted or failed stays so whatever the budget, and
one that has not has used up all of the first budget, so the second run starts where it ends.

The end of a run can be read off the last configuration and the number of transitions alone. In the
halting state the run has halted, else with all of the budget used it is exhausted, and else the
transition from the last configuration is the one that failed (`RunResult.Ends`). -/

namespace CardMachine

namespace Machine

variable {m m₁ m₂ : Machine} {l l₁ l₂ : List Snapshot} {t t₁ t₂ : Termination} {a b : Nat}

/-! ### One run after another -/

theorem Runs.of_termination (hr : Runs a m l m₁ t) (h : m.termination = some t₁) :
    l = [] ∧ m₁ = m ∧ t = t₁ := by
  cases hr with
  | spent => exact ⟨rfl, rfl, by rw [h]; rfl⟩
  | stop hs =>
    rw [step_of_termination h] at hs
    cases hs
    exact ⟨rfl, rfl, rfl⟩
  | move hs =>
    rw [step_of_termination h] at hs
    cases hs

/-- **A run goes on where the run before it ended.** -/
theorem Runs.append (h₁ : Runs a m l₁ m₁ t₁) (h₂ : Runs b m₁ l₂ m₂ t₂) :
    Runs (a + b) m (l₁ ++ l₂) m₂ t₂ := by
  induction h₁ with
  | spent m =>
    rw [Nat.zero_add]
    exact h₂
  | stop h =>
    -- the machine has stopped, so nothing happens in the second run
    obtain ⟨rfl, rfl, rfl⟩ := h₂.of_termination (termination_of_stopped h)
    rw [Nat.add_right_comm]
    exact .stop h
  | move h _ ih =>
    rw [Nat.add_right_comm]
    exact .move h (ih h₂)

/-- **Two runs are one run with the larger budget.** -/
theorem Runs.total (h₁ : Runs (a - m.steps) m l₁ m₁ t₁) (h₂ : Runs (b - m₁.steps) m₁ l₂ m₂ t₂) :
    Runs (max a b - m.steps) m (l₁ ++ l₂) m₂ t₂ := by
  cases ht : m₁.termination with
  | none =>
    have hl := h₁.length_eq ht
    have hs := h₁.steps_eq
    have hsum : max a b - m.steps = (a - m.steps) + (b - m₁.steps) := by omega
    rw [hsum]
    exact h₁.append h₂
  | some t =>
    obtain ⟨rfl, rfl, rfl⟩ := h₂.of_termination ht
    have hsum : max a b - m.steps = (a - m.steps) + (max a b - max a m.steps) := by omega
    rw [hsum]
    exact h₁.append (runs_of_termination ht _)

/-- After a run with a larger budget nothing is left to do. -/
theorem Runs.idle (h₁ : Runs (a - m.steps) m l₁ m₁ t₁) (h₂ : Runs (b - m₁.steps) m₁ l₂ m₂ t₂)
    (hlt : b < a) : l₂ = [] ∧ m₂ = m₁ := by
  cases ht : m₁.termination with
  | none =>
    have hl := h₁.length_eq ht
    have hs := h₁.steps_eq
    have hzero : b - m₁.steps = 0 := by omega
    rw [hzero] at h₂
    cases h₂
    exact ⟨rfl, rfl⟩
  | some t =>
    obtain ⟨hl, hm, -⟩ := h₂.of_termination ht
    exact ⟨hl, hm⟩

/-- A run with that budget leaves `m₁` and ends with `t`, and shows the snapshots `l` to whoever
observes it. -/
def Shows (m : Machine) (budget : Nat) (l : List Snapshot) (m₁ : Machine) (t : Termination) :
    Prop :=
  ∀ (σ : Type) (see : σ → Snapshot → σ) (s : σ), m.runWith budget see s = (m₁, t, l.foldl see s)

theorem Runs.shows (hr : Runs (a - m.steps) m l m₁ t) : m.Shows a l m₁ t :=
  fun _ see s => hr.advance_eq see s

/-- **Budgets are totals**: two runs leave the machine as one run with the larger budget does, end
in the same way and show the same snapshots in the same order; and if the second budget is smaller,
the second run does nothing. -/
theorem shows_max (m : Machine) (a b : Nat) : ∃ l₁ m₁ t₁ l₂ m₂ t₂,
    m.Shows a l₁ m₁ t₁ ∧ m₁.Shows b l₂ m₂ t₂ ∧ m.Shows (max a b) (l₁ ++ l₂) m₂ t₂ ∧
      (b < a → l₂ = [] ∧ m₂ = m₁) := by
  obtain ⟨l₁, m₁, t₁, h₁⟩ := exists_runs (a - m.steps) m
  obtain ⟨l₂, m₂, t₂, h₂⟩ := exists_runs (b - m₁.steps) m₁
  exact ⟨l₁, m₁, t₁, l₂, m₂, t₂, h₁.shows, h₂.shows, (h₁.total h₂).shows, h₁.idle h₂⟩

end Machine

/-! ### How a run ends -/

/-- The last configuration of a run. -/
def RunResult.config (r : RunResult) : Config := ⟨r.tape.toArray, r.head, r.state⟩

/-- The run of `p` ends so by its last configuration and the number of its transitions. -/
def RunResult.Ends (r : RunResult) (p : Program) (halt : StateId) (budget : UInt64) :
    Termination → Prop
  | .halted => r.state = halt
  | .budgetExhausted => r.state ≠ halt ∧ r.steps = budget
  | .failed e => r.state ≠ halt ∧ r.steps < budget ∧ p.Stuck r.config e

namespace Program

variable {p : Program} {halt : StateId} {budget : UInt64} {r : RunResult} {t t' : Termination}

theorem stuck_unique {c : Config} {e e' : RunError} (h : p.Stuck c e) (h' : p.Stuck c e') :
    e = e' := by
  have he := transition_eq_error_of_stuck h
  rw [transition_eq_error_of_stuck h'] at he
  cases he
  rfl

/-- A run ends in one way only. -/
theorem ends_unique (h : r.Ends p halt budget t) (h' : r.Ends p halt budget t') : t = t' := by
  cases t with
  | halted =>
    cases t' with
    | halted => rfl
    | budgetExhausted => exact absurd h h'.1
    | failed e => exact absurd h h'.1
  | budgetExhausted =>
    cases t' with
    | halted => exact absurd h' h.1
    | budgetExhausted => rfl
    | failed e => exact absurd h.2 (UInt64.ne_of_lt h'.2.1)
  | failed e =>
    cases t' with
    | halted => exact absurd h' h.1
    | budgetExhausted => exact absurd h'.2 (UInt64.ne_of_lt h.2.1)
    | failed e' => rw [stuck_unique h.2.2 h'.2.2]

end Program

namespace Machine

variable {m m' : Machine} {l : List Snapshot} {t : Termination}

/-- The number of transitions of a run from the start fits into a word, as its budget does. -/
theorem toNat_steps_result {budget : UInt64} (hr : Runs budget.toNat m l m' t) (hm : m.steps = 0) :
    (m'.result t).steps.toNat = l.length := by
  have hs := hr.steps_eq
  have hl := hr.length_le
  have hb := budget.toNat_lt
  have hlt : m'.steps < UInt64.size := by
    rw [hs, hm]
    show 0 + l.length < 2 ^ 64
    omega
  show (UInt64.ofNat m'.steps).toNat = _
  rw [UInt64.toNat_ofNat_of_lt' hlt]
  omega

/-- The result counts the transitions as the machine does. -/
theorem Runs.steps_result {budget : UInt64} (hr : Runs budget.toNat m l m' t) (hm : m.steps = 0) :
    (m'.result t).steps.toNat = m'.steps := by
  rw [toNat_steps_result hr hm, hr.steps_eq, hm, Nat.zero_add]

/-- **A run from the start ends as its result says.** -/
theorem Runs.ends {budget : UInt64} (hr : Runs budget.toNat m l m' t) (hm : m.steps = 0)
    (hf : m.failure = none) : (m'.result t).Ends m.program m.halt budget t := by
  obtain ⟨hreset, -⟩ := hr.invariant (I := fun x => x.reset = m.reset)
    (fun x hx => (reset_step x).trans hx) rfl
  obtain ⟨hprogram, hhalt⟩ := eq_of_reset_eq hreset
  have hsteps := toNat_steps_result hr hm
  have hend := hr.termination_eq
  rw [← hprogram, ← hhalt]
  by_cases hh : m'.config.state = m'.halt
  · rw [termination_of_halted hh] at hend
    subst hend
    exact hh
  · cases he : m'.failure with
    | none =>
      have ht := termination_eq_none_iff.mpr ⟨hh, he⟩
      rw [ht] at hend
      subst hend
      refine ⟨hh, UInt64.toNat_inj.mp ?_⟩
      rw [hsteps, hr.length_eq ht]
    | some e =>
      rw [termination_of_failure hh he] at hend
      subst hend
      obtain ⟨hdue, -⟩ := hr.invariant (fun _ h => h.step) (failureDue_of_none hf)
      have hlt := hr.length_lt hf (by rw [he]; simp)
      refine ⟨hh, UInt64.lt_iff_toNat_lt.mpr (by omega), ?_⟩
      exact Program.stuck_of_transition_eq_error (hdue e he).2

end Machine

namespace Program

/-- **How a run ends**: the tape keeps its length and the budget is kept; the run has halted exactly
in the halting state, it is exhausted exactly if it is not there after all of its budget, and it
failed exactly if neither is so, with the first reason why there is no transition from the last
configuration. -/
theorem runWith_termination_iff {σ : Type} (p : Program) (tape : List Symbol) (head : Int64)
    (entry halt : StateId) (budget : UInt64) (see : σ → Snapshot → σ) (s : σ) :
    let r := (p.runWith tape head entry halt budget see s).1
    r.tape.length = tape.length ∧ r.steps ≤ budget ∧
    (r.termination = .halted ↔ r.state = halt) ∧
    (r.termination = .budgetExhausted ↔ r.state ≠ halt ∧ r.steps = budget) ∧
    ∀ e, r.termination = .failed e ↔ r.state ≠ halt ∧ r.steps < budget ∧ p.Stuck r.config e := by
  obtain ⟨l, m, t, hr, hrun, -⟩ := p.exists_runs tape head entry halt budget
  rw [hrun]
  intro r
  have hends : r.Ends p halt budget t := hr.ends rfl rfl
  have hiff : ∀ t', r.termination = t' ↔ r.Ends p halt budget t' := fun t' =>
    ⟨fun h => h ▸ hends, fun h => ends_unique hends h⟩
  have hsize := (hr.invariant (I := fun x => x.config.tape.size = tape.length)
    (fun x hx => (Machine.size_step x).trans hx) List.size_toArray).1
  have hle : r.steps ≤ budget := by
    have hsteps : r.steps.toNat = l.length := Machine.toNat_steps_result hr rfl
    rw [UInt64.le_iff_toNat_le, hsteps]
    exact hr.length_le
  exact ⟨hsize, hle, hiff .halted, hiff .budgetExhausted, fun e => hiff (.failed e)⟩

end Program

end CardMachine
