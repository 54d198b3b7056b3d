import CardMachine.Proofs.Machine.Budget
import Mathlib.Data.List.Chain

/-! # What an observer sees

An observer is shown the machine after each transition. With the start before them, these snapshots
are a chain: each follows from the one before it by the action that is due there
(`Program.Follows`). A call of `step` that moves on adds one to the chain (`follows_of_moved`), a
call that stops adds none and leaves the machine where the last snapshot showed it; so the chain
ends where the run does (`Runs.getLast?_seen`) and only its end may be halted (`Runs.running`).

Every observer is shown the same snapshots and the result is the same for every observer, so nothing
but the run is seen, and all of it (`runWith_eq_foldl_watch`). -/

namespace CardMachine

/-- The snapshot `y` follows from `x`: the card of the state of `x` has an action for the symbol
under the head, which is on the tape, and `y` is what the action makes of `x`, one transition
later. -/
structure Program.Follows (p : Program) (x y : Snapshot) : Prop where
  due : ∃ cell scanned action, p.Due x.toConfig cell scanned action ∧
    y.toConfig = action.perform x.tape cell
  steps : y.steps = x.steps + 1

/-- The last configuration of a run with the number of its transitions. -/
def RunResult.snapshot (r : RunResult) : Snapshot := { r.config with steps := r.steps.toNat }

/-- What a run from `first` with the result `r` shows. -/
structure Program.Shown (p : Program) (halt : StateId) (first : Snapshot) (r : RunResult)
    (seen : List Snapshot) : Prop where
  /-- There is one snapshot for each transition. -/
  length : seen.length = r.steps.toNat
  /-- They are numbered from one on. -/
  steps : ∀ i (h : i < seen.length), seen[i].steps = i + 1
  /-- Each follows from the one before it, and the first from the start. -/
  chain : (first :: seen).IsChain p.Follows
  /-- None before the last is in the halting state. -/
  running : ∀ x ∈ (first :: seen).dropLast, x.state ≠ halt
  /-- The last is the result; if there is none, the start is. -/
  last : (first :: seen).getLast? = some r.snapshot

theorem Program.steps_of_isChain {p : Program} : ∀ {seen : List Snapshot} {x : Snapshot},
    (x :: seen).IsChain p.Follows → ∀ i (h : i < seen.length), seen[i].steps = x.steps + (i + 1)
  | y :: _, x, hc, 0, _ => (List.isChain_cons_cons.mp hc).1.steps
  | y :: seen, x, hc, i + 1, h => by
    obtain ⟨hy, hseen⟩ := List.isChain_cons_cons.mp hc
    have hi := steps_of_isChain hseen i (Nat.lt_of_succ_lt_succ h)
    rw [List.getElem_cons_succ, hi, hy.steps]
    omega

namespace Machine

variable {m m₁ m' : Machine} {l : List Snapshot} {t : Termination} {n : Nat}

/-- **A call of `step` that moves on is one link of the chain.** -/
theorem follows_of_moved (h : m.step = (m₁, .moved)) :
    m.program.Follows m.snapshot m₁.snapshot := by
  obtain ⟨-, c, hc, rfl⟩ := transition_of_moved h
  obtain ⟨cell, x, a, hd, rfl⟩ := Program.due_of_transition_eq_ok hc
  exact ⟨⟨cell, x, a, hd, rfl⟩, rfl⟩

/-- **The snapshots of a run are a chain** that begins with the machine before it. -/
theorem Runs.isChain (hr : Runs n m l m' t) : (m.snapshot :: l).IsChain m.program.Follows := by
  induction hr with
  | spent m => exact .singleton _
  | stop h => exact .singleton _
  | move h _ ih =>
    have hlink := follows_of_moved h
    obtain ⟨-, c, -, rfl⟩ := transition_of_moved h
    exact .cons_cons hlink ih

/-- The chain ends with the machine after the run. -/
theorem Runs.getLast?_seen (hr : Runs n m l m' t) :
    (m.snapshot :: l).getLast? = some m'.snapshot := by
  induction hr with
  | spent m => rfl
  | stop h => rcases transition_of_stopped h with ⟨-, rfl⟩ | ⟨-, e, -, -, rfl⟩ <;> rfl
  | move h _ ih =>
    rw [List.getLast?_cons_cons]
    exact ih

/-- The machine has not halted before the end of the chain. -/
theorem Runs.running (hr : Runs n m l m' t) :
    ∀ x ∈ (m.snapshot :: l).dropLast, x.state ≠ m.halt := by
  induction hr with
  | spent m => exact fun x hx => by cases hx
  | stop h => exact fun x hx => by cases hx
  | move h _ ih =>
    obtain ⟨ht, c, -, rfl⟩ := transition_of_moved h
    intro x hx
    rw [List.dropLast_cons_cons] at hx
    rcases List.mem_cons.mp hx with rfl | hx
    · exact (termination_eq_none_iff.mp ht).1
    · exact ih x hx

/-- A number of steps that fits into a word is in the result as it is. -/
theorem snapshot_result (hs : (m.result t).steps.toNat = m.steps) :
    (m.result t).snapshot = m.snapshot := by
  rw [RunResult.snapshot, hs]
  rfl

end Machine

/-- **An observer sees the run and nothing but the run.** The result is the same with any observer
and without one, and every observer is shown the same snapshots. There is one for each transition,
each follows from the one before it, none but the last is halted, and the last is the result. -/
theorem Program.runWith_eq_foldl_watch (p : Program) (tape : List Symbol) (head : Int64)
    (entry halt : StateId) (budget : UInt64) :
    let r := p.run tape head entry halt budget
    let seen := (p.watch tape head entry halt budget).2
    (∀ (σ : Type) (see : σ → Snapshot → σ) (s : σ),
      p.runWith tape head entry halt budget see s = (r, seen.foldl see s)) ∧
    p.Shown halt ⟨⟨tape.toArray, head, entry⟩, 0⟩ r seen := by
  obtain ⟨l, m, t, hr, hrun, hwatch⟩ := p.exists_runs tape head entry halt budget
  rw [run_of_runs hr, hwatch]
  intro r seen
  have hlength : seen.length = r.steps.toNat := (Machine.toNat_steps_result hr rfl).symm
  refine ⟨hrun, hlength, fun i h => ?_, hr.isChain, hr.running, ?_⟩
  · exact (steps_of_isChain hr.isChain i h).trans (Nat.zero_add _)
  · rw [Machine.snapshot_result (hr.steps_result rfl)]
    exact hr.getLast?_seen

end CardMachine
