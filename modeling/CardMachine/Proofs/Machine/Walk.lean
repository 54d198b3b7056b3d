import CardMachine.Proofs.Machine.Looping
import CardMachine.Proofs.Machine.Budget
import CardMachine.Proofs.Machine.Saturation

/-! # Walks along a tape

What a given program computes is proved piece by piece. A walk is a number of transitions that meet
no halted configuration on the way. One walk after another is a walk (`Walk.append`); one that ends
in the halting state is the run with every budget of at least as many transitions (`Walk.run_eq`,
`Walk.run_halts`), and any smaller budget is used up on the way (`Walk.run_exhausted`).

The pieces are single transitions (`transition_on`) and sweeps: in a state that goes on to the next
cell and stays, the head passes over a row of cells and changes each of them (`Walk.sweepRight`,
`Walk.sweepLeft`). A search is a sweep that leaves the cells as they are, with the transition on the
cell at which it stops (`Walk.search`). -/

namespace CardMachine

/-- A cell with a position in range is at that position. -/
theorem Head.toInt_ofIndex {i : Nat} (hi : i < 2 ^ 63) : (ofIndex i).toInt = i := by
  rw [ofIndex, Unbounded.toInt_ofIntClamp, clamp]
  omega

/-- The configuration with the head on a cell of a tape. -/
def Config.on (state : StateId) (tape : List Symbol) (cell : Nat) : Config :=
  ⟨tape.toArray, Head.ofIndex cell, state⟩

namespace Program

variable {p : Program} {halt : StateId} {c d e : Config} {m n : Nat}

/-! ### Walks -/

/-- From `c` it is `n` transitions to `d`, and no configuration before `d` is halted. -/
inductive Walk (p : Program) (halt : StateId) : Nat → Config → Config → Prop where
  | rest (c : Config) : Walk p halt 0 c c
  | step {n : Nat} {c d e : Config} (hc : c.state ≠ halt) (hd : p.transition c = .ok d)
      (he : Walk p halt n d e) : Walk p halt (n + 1) c e

theorem Walk.one (hc : c.state ≠ halt) (hd : p.transition c = .ok d) : p.Walk halt 1 c d :=
  .step hc hd (.rest d)

theorem Walk.append (h : p.Walk halt m c d) (h' : p.Walk halt n d e) :
    p.Walk halt (m + n) c e := by
  induction h with
  | rest c =>
    rw [Nat.zero_add]
    exact h'
  | step hc hd _ ih =>
    rw [Nat.add_right_comm]
    exact .step hc hd (ih h')

/-- A run goes on at least as long as a walk. -/
theorem Walk.lasts (h : p.Walk halt n c d) : ∀ {k : Nat}, k < n → p.Lasts halt c k := by
  induction h with
  | rest c => exact fun hk => absurd hk (Nat.not_lt_zero _)
  | @step n c d e hc hd _ ih =>
    rintro (_ | k) hk
    · intro j hj
      obtain rfl := Nat.le_zero.mp hj
      exact ⟨c, rfl, hc⟩
    · exact (lasts_succ_iff hd).mpr ⟨hc, ih (Nat.lt_of_succ_lt_succ hk)⟩

/-- A machine without a failure takes the transitions of a walk. -/
theorem Walk.runs (h : p.Walk halt n c d) : ∀ {m : Machine}, m.program = p → m.halt = halt →
    m.failure = none → m.config = c →
      ∃ l t, Machine.Runs n m l { m with config := d, steps := m.steps + n } t := by
  induction h with
  | rest c =>
    rintro m - - - rfl
    exact ⟨[], _, .spent m⟩
  | @step n c d e hc hd _ ih =>
    rintro m rfl rfl hf rfl
    have hstep := Machine.step_of_termination_eq_none
      (Machine.termination_eq_none_iff.mpr ⟨hc, hf⟩)
    rw [hd] at hstep
    obtain ⟨l, t, hr⟩ := ih (m := { m with config := d, steps := m.steps + 1 }) rfl rfl hf rfl
    rw [Nat.add_assoc, Nat.add_comm 1 n] at hr
    exact ⟨_, t, .move hstep hr⟩

section RunsOfWalks

variable {tape : List Symbol} {head : Int64} {entry : StateId} {budget : UInt64}

/-- **A walk to the halting state is a run** with any budget that is large enough. -/
theorem Walk.run_eq (h : p.Walk halt n ⟨tape.toArray, head, entry⟩ d) (hd : d.state = halt)
    (hb : n ≤ budget.toNat) : p.run tape head entry halt budget =
      ⟨d.tape.toList, d.head, halt, .ofNat n, .halted⟩ := by
  let start := (Machine.start p tape head).withStates entry halt
  obtain ⟨l, t, hr⟩ := h.runs (m := start) rfl rfl rfl rfl
  have hhalted : { start with config := d, steps := start.steps + n }.termination = some .halted :=
    Machine.termination_of_halted hd
  have hall := hr.append (Machine.runs_of_termination hhalted (budget.toNat - n))
  rw [Nat.add_sub_cancel' hb] at hall
  rw [run_of_runs hall]
  show RunResult.mk _ _ _ (.ofNat (0 + n)) _ = _
  rw [hd, Nat.zero_add]

/-- What the run shows of a walk from one cell to another. -/
theorem Walk.run_halts {tape' : List Symbol} {i j : Nat}
    (h : p.Walk halt n (.on entry tape i) (.on halt tape' j)) (hb : n ≤ budget.toNat) :
    let r := p.run tape (Head.ofIndex i) entry halt budget
    r.termination = .halted ∧ r.steps.toNat = n ∧ r.head = Head.ofIndex j ∧ r.tape = tape' := by
  intro r
  have hr : r = ⟨tape', (Config.on halt tape' j).head, halt, .ofNat n, .halted⟩ := h.run_eq rfl hb
  rw [hr]
  exact ⟨rfl, UInt64.toNat_ofNat_of_lt' (Nat.lt_of_le_of_lt hb budget.toNat_lt), rfl, rfl⟩

/-- **A smaller budget is used up** on the way. -/
theorem Walk.run_exhausted (h : p.Walk halt n ⟨tape.toArray, head, entry⟩ d)
    (hb : budget.toNat < n) :
    (p.run tape head entry halt budget).termination = .budgetExhausted := by
  obtain ⟨l, m, t, hr, -, -⟩ := p.exists_runs tape head entry halt budget
  rw [run_of_runs hr]
  exact (hr.exhausted_iff rfl).mpr (h.lasts hb)

end RunsOfWalks

/-! ### Pieces of walks -/

variable {state : StateId} {card : Card} {x y : Symbol} {a : Action} {f : Symbol → Symbol}

/-- **The transition on a cell** writes to it and leaves the cells on both sides of it. -/
theorem transition_on (left right : List Symbol) {j : Nat} (hcard : p.card? state = some card)
    (ha : card.get? x = some a) (hl : left.length < 2 ^ 63)
    (hj : (j : Int) = left.length + a.step.toInt) :
    p.transition (.on state (left ++ x :: right) left.length) =
      .ok (.on a.next (left ++ a.write :: right) j) := by
  have hhead := Head.toInt_ofIndex hl
  have hdue : p.Due (.on state (left ++ x :: right) left.length) left.length x a := by
    refine ⟨⟨card, hcard, ha⟩, Head.index?_eq_some_iff.mpr ⟨hhead.symm, ?_⟩, ?_⟩
    · simp [Config.on]
    · simp [Config.on]
  have htape : (left ++ x :: right).toArray.setIfInBounds left.length a.write =
      (left ++ a.write :: right).toArray := by simp
  have hmove : Head.move (Head.ofIndex left.length) a.step = Head.ofIndex j := by
    rw [Head.move, hhead, ← hj]
    rfl
  rw [transition_eq_ok_of_due hdue, Action.perform, Config.on, htape, hmove]
  rfl

/-- **A sweep to the right** over the cells `xs`. -/
theorem Walk.sweepRight (hstate : state ≠ halt) (hcard : p.card? state = some card)
    (right : List Symbol) : ∀ (left : List Symbol) {xs : List Symbol},
      (∀ x ∈ xs, card.get? x = some ⟨f x, 1, state⟩) → left.length + xs.length ≤ 2 ^ 63 →
      p.Walk halt xs.length (.on state (left ++ (xs ++ right)) left.length)
        (.on state (left ++ (xs.map f ++ right)) (left.length + xs.length))
  | left, [], _, _ => .rest _
  | left, x :: xs, hxs, hl => by
    obtain ⟨hx, hxs⟩ := List.forall_mem_cons.mp hxs
    rw [List.length_cons] at hl
    have hstep := transition_on left (xs ++ right) hcard hx (by omega) (j := left.length + 1)
      (by simp)
    have hrest := Walk.sweepRight hstate hcard right (left ++ [f x]) hxs (by simp; omega)
    simp only [List.append_assoc, List.singleton_append, List.length_append,
      List.length_singleton] at hrest
    have hend : left.length + (xs.length + 1) = left.length + 1 + xs.length := by omega
    rw [List.length_cons, hend]
    exact .step hstate hstep hrest

/-- **A search to the right**, over the cells `xs` to the first one with another action. -/
theorem Walk.search (hstate : state ≠ halt) (hcard : p.card? state = some card)
    (left right : List Symbol) {xs : List Symbol} {j : Nat}
    (hxs : ∀ x ∈ xs, card.get? x = some ⟨x, 1, state⟩) (hy : card.get? y = some a)
    (hl : left.length + xs.length < 2 ^ 63)
    (hj : (j : Int) = left.length + xs.length + a.step.toInt) :
    p.Walk halt (xs.length + 1) (.on state (left ++ (xs ++ y :: right)) left.length)
      (.on a.next (left ++ (xs ++ a.write :: right)) j) := by
  have hsweep := Walk.sweepRight (f := id) hstate hcard (y :: right) left hxs (Nat.le_of_lt hl)
  have hlength : (left ++ xs).length = left.length + xs.length := List.length_append
  have hstop := transition_on (j := j) (left ++ xs) right hcard hy (by rwa [hlength])
    (by rw [hlength, hj]; rfl)
  rw [hlength, List.append_assoc, List.append_assoc] at hstop
  rw [List.map_id] at hsweep
  exact hsweep.append (.one hstate hstop)

/-- **A sweep to the left** over the cells `xs`, which ends on the cell before them. -/
theorem Walk.sweepLeft (hstate : state ≠ halt) (hcard : p.card? state = some card)
    (left right : List Symbol) {xs : List Symbol}
    (hxs : ∀ x ∈ xs, card.get? x = some ⟨f x, -1, state⟩)
    (hl : left.length + xs.length < 2 ^ 63) :
    p.Walk halt xs.length (.on state (left ++ y :: (xs ++ right)) (left.length + xs.length))
      (.on state (left ++ y :: (xs.map f ++ right)) left.length) := by
  induction xs using List.reverseRecOn generalizing right with
  | nil => exact .rest _
  | append_singleton xs x ih =>
    obtain ⟨hxs, hx⟩ := List.forall_mem_append.mp hxs
    have hx := hx x (List.mem_singleton.mpr rfl)
    rw [List.length_append, List.length_singleton] at hl ⊢
    have hcells : (left ++ y :: xs).length = left.length + (xs.length + 1) := by simp
    have hstep := transition_on (left ++ y :: xs) right hcard hx (by omega)
      (j := left.length + xs.length) (by rw [hcells]; simp; omega)
    have hrest := ih (f x :: right) hxs (by omega)
    rw [hcells] at hstep
    simp only [List.append_assoc, List.cons_append, List.map_append, List.map_cons, List.map_nil,
      List.nil_append] at hstep hrest ⊢
    exact .step hstate hstep hrest

end Program

end CardMachine
