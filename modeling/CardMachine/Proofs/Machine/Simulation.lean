import CardMachine.Proofs.Machine.Runs

/-! # One machine seen as another

Some machines do the same as others, but for what is on their tapes and how their states are
numbered. A `View` says what becomes of a tape, of a state and of a failure. If the transition of a
program, seen through the view, is the transition of another program (`View.Agrees`), then so is a
call of `step` (`View.step_machine`) and so are whole runs (`View.runs_machine`), with the results
they have and the snapshots they show (`View.watch_eq`).

The programs have to agree only where the run comes: along an invariant of its machines, and about
no other failure than the one it ends with. -/

namespace CardMachine

/-- What becomes of the tape, the states and the failures of a machine that is seen as another. No
two states become one, so a machine is seen to halt only where it halts. -/
structure View where
  tape : List Symbol → List Symbol
  state : StateId → StateId
  error : RunError → RunError
  state_injective : Function.Injective state

namespace View

variable (v : View)

/-- A configuration as it is seen; the head stays. -/
def config (c : Config) : Config where
  tape := (v.tape c.tape.toList).toArray
  head := c.head
  state := v.state c.state

/-- The end of a run as it is seen. -/
def termination : Termination → Termination
  | .halted => .halted
  | .budgetExhausted => .budgetExhausted
  | .failed e => .failed (v.error e)

/-- What a call of `step` did, as it is seen. -/
def progress : Progress → Progress
  | .moved => .moved
  | .stopped t => .stopped (v.termination t)

/-- A snapshot as it is seen. -/
def snapshot (x : Snapshot) : Snapshot := { v.config x.toConfig with steps := x.steps }

/-- The result of a run as it is seen. -/
def result (r : RunResult) : RunResult :=
  { r with
    tape := v.tape r.tape
    state := v.state r.state
    termination := v.termination r.termination }

/-- A machine as it is seen, at work on the program `q`. -/
def machine (q : Program) (m : Machine) : Machine where
  program := q
  config := v.config m.config
  entry := v.state m.entry
  halt := v.state m.halt
  steps := m.steps
  failure := m.failure.map v.error
  firstTape := (v.tape m.firstTape.toList).toArray
  firstHead := m.firstHead

/-- From `c` as it is seen, the transition of `q` is that of `p` as it is seen. -/
def Agrees (p q : Program) (c : Config) : Prop :=
  q.transition (v.config c) =
    match p.transition c with
    | .ok c' => .ok (v.config c')
    | .error e => .error (v.error e)

variable {v} {p q : Program} {m m' : Machine} {l : List Snapshot} {t : Termination} {n : Nat}

/-- Programs agree if what is due for one is seen to be due for the other, and why nothing is due
for one is seen to be why nothing is due for the other. -/
theorem agrees_of_due_of_stuck {c : Config}
    (hdue : ∀ cell x a, p.Due c cell x a → ∃ x' a', q.Due (v.config c) cell x' a' ∧
      a'.perform (v.config c).tape cell = v.config (a.perform c.tape cell))
    (hstuck : ∀ e, p.Stuck c e → q.Stuck (v.config c) (v.error e)) : v.Agrees p q c := by
  unfold Agrees
  rcases p.transition_cases c with ⟨cell, x, a, hd, ht⟩ | ⟨e, hs, ht⟩
  · obtain ⟨x', a', hd', hperform⟩ := hdue cell x a hd
    rw [ht, Program.transition_eq_ok_of_due hd', hperform]
  · rw [ht, Program.transition_eq_error_of_stuck (hstuck e hs)]

theorem termination_of_error_eq_id (h : v.error = id) (t : Termination) : v.termination t = t := by
  cases t with
  | failed e => exact congrArg (fun f => Termination.failed (f e)) h
  | _ => rfl

theorem termination_machine : (v.machine q m).termination = m.termination.map v.termination := by
  by_cases hh : m.config.state = m.halt
  · rw [Machine.termination_of_halted hh]
    exact Machine.termination_of_halted (congrArg v.state hh)
  · have hh' : (v.machine q m).config.state ≠ (v.machine q m).halt :=
      fun h => hh (v.state_injective h)
    cases hf : m.failure with
    | none =>
      rw [Machine.termination_eq_none_iff.mpr ⟨hh, hf⟩]
      exact Machine.termination_eq_none_iff.mpr ⟨hh', congrArg (Option.map v.error) hf⟩
    | some e =>
      rw [Machine.termination_of_failure hh hf]
      exact Machine.termination_of_failure hh' (congrArg (Option.map v.error) hf)

/-- **One call of `step`** does the same where the programs agree. -/
theorem step_machine (h : v.Agrees m.program q m.config) :
    (v.machine q m).step = (v.machine q m.step.1, v.progress m.step.2) := by
  have hend : (v.machine q m).termination = m.termination.map v.termination := termination_machine
  -- the transition of the machine as it is seen
  have hseen : (v.machine q m).program.transition (v.machine q m).config = _ := h
  rcases Machine.step_cases m with ⟨t, ht, hs⟩ | ⟨ht, c, hc, hs⟩ | ⟨ht, e, he, hs⟩
  · rw [ht] at hend
    rw [hs, Machine.step_of_termination hend]
    rfl
  · rw [ht] at hend
    rw [hc] at hseen
    rw [hs, Machine.step_of_termination_eq_none hend, hseen]
    rfl
  · rw [ht] at hend
    rw [he] at hseen
    rw [hs, Machine.step_of_termination_eq_none hend, hseen]
    rfl

/-- **A run** does the same if the programs agree along an invariant of it. They need not agree
where the transition fails, unless the run ends with this failure. -/
theorem runs_machine {I : Machine → Prop} (hI : ∀ x, I x → I x.step.1)
    (hr : Machine.Runs n m l m' t)
    (hagrees : ∀ x, I x → (∀ e, x.program.transition x.config = .error e → t = .failed e) →
      v.Agrees x.program q x.config)
    (hm : I m) :
    Machine.Runs n (v.machine q m) (l.map v.snapshot) (v.machine q m') (v.termination t) := by
  induction hr with
  | spent m =>
    have hspent := Machine.Runs.spent (v.machine q m)
    rw [termination_machine] at hspent
    cases ht : m.termination <;> rw [ht] at hspent <;> exact hspent
  | @stop n m m' t h =>
    refine .stop ?_
    rcases Machine.transition_of_stopped h with ⟨ht, rfl⟩ | ⟨-, e, he, rfl, rfl⟩
    · exact Machine.step_of_termination (by rw [termination_machine, ht]; rfl)
    · have ha := hagrees m hm fun e' he' => by rw [he] at he'; cases he'; rfl
      rw [step_machine ha, h]
      rfl
  | @move n m m₁ m' l t h hr ih =>
    obtain ⟨-, c, hc, -⟩ := Machine.transition_of_moved h
    have ha := hagrees m hm fun e' he' => by rw [hc] at he'; cases he'
    have hm₁ := hI m hm
    rw [h] at hm₁
    have hstep : (v.machine q m).step = (v.machine q m₁, .moved) := by
      rw [step_machine ha, h]
      rfl
    exact .move hstep (ih hagrees hm₁)

/-- Nothing is seen to change, but the program may be another. -/
def same : View where
  tape := id
  state := id
  error := id
  state_injective _ _ h := h

theorem machine_same (q : Program) (m : Machine) : same.machine q m = { m with program := q } := by
  simp [machine, config, same]

theorem agrees_same {c : Config} (h : q.transition c = p.transition c) : same.Agrees p q c := by
  show q.transition c = _
  rw [h]
  cases p.transition c <;> rfl

/-- **The same run with another program**, if the transitions of the two are the same along an
invariant of it. -/
theorem runs_of_transition_eq {I : Machine → Prop} (hI : ∀ x, I x → I x.step.1)
    (hr : Machine.Runs n m l m' t)
    (hsame : ∀ x, I x → q.transition x.config = x.program.transition x.config) (hm : I m) :
    Machine.Runs n { m with program := q } l { m' with program := q } t := by
  have hseen := runs_machine (v := same) (q := q) hI hr (fun x hx _ => agrees_same (hsame x hx)) hm
  rw [machine_same, machine_same, termination_of_error_eq_id rfl] at hseen
  rwa [show same.snapshot = id from rfl, List.map_id] at hseen

/-- **The run of a program seen as a run of another**: the result and the snapshots, with any
observer, are those of the one as they are seen, if the programs agree wherever the transition does
not fail otherwise than the run. -/
theorem watch_eq (v : View) (p q : Program) (tape : List Symbol) (head : Int64)
    (entry halt : StateId) (budget : UInt64)
    (hagrees : ∀ c, (∀ e, p.transition c = .error e →
        (p.run tape head entry halt budget).termination = .failed e) → v.Agrees p q c) :
    let r := v.result (p.run tape head entry halt budget)
    let seen := (p.watch tape head entry halt budget).2.map v.snapshot
    q.watch (v.tape tape) head (v.state entry) (v.state halt) budget = (r, seen) ∧
    ∀ (σ : Type) (see : σ → Snapshot → σ) (s : σ),
      q.runWith (v.tape tape) head (v.state entry) (v.state halt) budget see s =
        (r, seen.foldl see s) := by
  obtain ⟨l, m, t, hr, -, hwatch⟩ := p.exists_runs tape head entry halt budget
  rw [Program.run_of_runs hr] at hagrees ⊢
  rw [hwatch]
  have hq := runs_machine (v := v) (q := q) (I := fun x => x.program = p)
    (fun x hx => (Machine.eq_of_reset_eq (Machine.reset_step x)).1.trans hx) hr
    (fun x hx hx' => by subst hx; exact hagrees x.config hx') rfl
  exact ⟨Program.watch_of_runs hq, fun σ see s => Program.runWith_of_runs hq see s⟩

end View

end CardMachine
