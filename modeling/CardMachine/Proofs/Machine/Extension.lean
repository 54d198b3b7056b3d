import CardMachine.Proofs.Machine.History
import CardMachine.Proofs.Machine.Simulation

/-! # More cells at the end of the tape

A run on a tape is seen as a run on the tape with more cells at its end. A head on the tape is at
the same cell of the longer one, the cell holds the same symbol and the same is written to it. So
what is due is the same, and so is the reason why nothing is due, unless it is that the head is off
the tape: there the longer tape may go on (`agrees_extending`).

So a run that does not fail off the tape is the same on the longer tape and leaves the cells at its
end as they are. The head may well be off the tape when the run ends: in the halting state, with the
budget used up, or in a state that has no card. -/

namespace CardMachine.Program

variable {p : Program} {c : Config} {s : List Symbol}

/-- The cells `s` are added at the end of the tape, and nothing else changes. -/
def extending (s : List Symbol) : View where
  tape := (· ++ s)
  state := id
  error := id
  state_injective _ _ h := h

/-! ### One transition -/

theorem index?_extending {cell : Nat} (h : Head.index? c.head c.tape.size = some cell) :
    Head.index? ((extending s).config c).head ((extending s).config c).tape.size = some cell :=
  Head.index?_of_le h (by simp [View.config, extending])

theorem getElem?_extending {cell : Nat} (h : cell < c.tape.size) :
    ((extending s).config c).tape[cell]? = c.tape[cell]? := by
  simp only [View.config, extending, List.getElem?_toArray]
  rw [List.getElem?_append_left h, Array.getElem?_toList]

theorem perform_extending {cell : Nat} {a : Action} (h : cell < c.tape.size) :
    a.perform ((extending s).config c).tape cell =
      (extending s).config (a.perform c.tape cell) := by
  simp only [Action.perform, View.config, extending, id, Config.mk.injEq, and_true]
  rw [List.setIfInBounds_toArray, Array.toList_setIfInBounds, List.set_append_left _ _ h]

/-- **On the longer tape the transition is the same**, unless it fails off the tape. -/
theorem agrees_extending (h : ∀ head length, p.transition c ≠ .error (.outOfBounds head length)) :
    (extending s).Agrees p p c := by
  refine View.agrees_of_due_of_stuck (fun cell x a hd => ?_) fun e he => ?_
  · have hlt := Head.lt_of_index? hd.index
    refine ⟨x, a, ⟨hd.card, index?_extending hd.index, ?_⟩, perform_extending hlt⟩
    rw [getElem?_extending hlt]
    exact hd.symbol
  · have herror := transition_eq_error_of_stuck he
    cases he with
    | unknownState hc => exact .unknownState hc
    | outOfBounds card hc hi => exact absurd herror (h _ _)
    | undefinedSymbol card cell x hc hi hs ha =>
      rw [← getElem?_extending (s := s) (Head.lt_of_index? hi)] at hs
      exact .undefinedSymbol card cell x hc (index?_extending hi) hs ha

/-! ### Whole runs -/

theorem result_extending (r : RunResult) :
    (extending s).result r = { r with tape := r.tape ++ s } := by
  have ht : (extending s).termination r.termination = r.termination :=
    View.termination_of_error_eq_id rfl _
  rw [View.result, ht]
  rfl

theorem snapshot_extending (x : Snapshot) :
    (extending s).snapshot x = { x with tape := x.tape ++ s.toArray } := by
  simp [View.snapshot, View.config, extending]

/-- **More cells at the end of the tape do not disturb a run** that does not fail off the tape. It
ends in the same way and with the same head, state and number of steps; the tape at the end, and in
each snapshot, is the one it was with the cells added. -/
theorem watch_append (p : Program) (tape s : List Symbol) (head : Int64) (entry halt : StateId)
    (budget : UInt64)
    (h : ∀ head' length, (p.run tape head entry halt budget).termination ≠
      .failed (.outOfBounds head' length)) :
    let r := p.run tape head entry halt budget
    let r' := { r with tape := r.tape ++ s }
    let seen := (p.watch tape head entry halt budget).2.map fun x =>
      { x with tape := x.tape ++ s.toArray }
    p.watch (tape ++ s) head entry halt budget = (r', seen) ∧
    ∀ (σ : Type) (see : σ → Snapshot → σ) (z : σ),
      p.runWith (tape ++ s) head entry halt budget see z = (r', seen.foldl see z) := by
  have hrun := (extending s).watch_eq p p tape head entry halt budget
    fun c hc => agrees_extending fun head' length he => h head' length (hc _ he)
  simp only [result_extending, funext snapshot_extending] at hrun
  exact hrun

-- the budget is used up as the head leaves the tape, and the longer tape is left at the same place
theorem watch_append_sweeping :
    (∀ head length, (sweeping.run ['a', 'a'] 0 1 0 2).termination ≠
      .failed (.outOfBounds head length)) ∧
    sweeping.run (['a', 'a'] ++ ['c']) 0 1 0 2 =
      { tape := ['b', 'b', 'c'], head := 2, state := 1, steps := 2,
        termination := .budgetExhausted } := by
  have hend : (sweeping.run ['a', 'a'] 0 1 0 2).termination = .budgetExhausted := by decide
  have hoff : ∀ head length, (sweeping.run ['a', 'a'] 0 1 0 2).termination ≠
      .failed (.outOfBounds head length) := by
    intro head length
    rw [hend]
    simp
  obtain ⟨-, hrun⟩ := watch_append sweeping ['a', 'a'] ['c'] 0 1 0 2 hoff
  exact ⟨hoff, (congrArg Prod.fst (hrun Unit (fun _ _ => ()) ())).trans (by decide)⟩

end CardMachine.Program
