import CardMachine.Proofs.Machine.History

/-! # The action that comes next

`action?` looks up the action for the state and the symbol under the head; `step` takes a
transition. As long as the machine has no failure the two agree: there is an action exactly if the
next call of `step` moves on, and then it is the action that is taken (`takes_of_action?`,
`foretells_iff`).

A failure stays until the machine is reset, and `action?` does not look at it. Where the machine
stands as it failed there is no action either, since there is no transition (`FailureDue`). But
`withStates` takes a failed machine to another state, which may have an action for the symbol under
the head. This action will not be taken: `step` goes on to report the failure. -/

namespace CardMachine.Machine

variable {p : Program} {c : Config} {m m₀ : Machine} {a : Action} {x : Symbol}

/-! ### Orders -/

/-- Anything that changes a machine: a call, or the choice of other states. -/
inductive Order : Type 1 where
  | call (call : Call)
  | withStates (entry halt : StateId)

/-- The machine after an order. -/
def obey (m : Machine) : Order → Machine
  | .call call => m.after call
  | .withStates entry halt => m.withStates entry halt

/-- Other states are chosen only while the machine has no failure. -/
def Tame : Machine → List Order → Prop
  | _, [] => True
  | m, .call call :: orders => Tame (m.after call) orders
  | m, .withStates entry halt :: orders => m.failure = none ∧ Tame (m.withStates entry halt) orders

/-! ### What `step` does with an action -/

/-- `step` takes the action: it writes to the cell under the head and to no other, moves the head,
which stays in range, goes to the next state and counts one step. -/
structure Takes (m : Machine) (a : Action) : Prop where
  moved : m.step.2 = .moved
  tape : ∃ cell : Nat, (cell : Int) = m.config.head.toInt ∧
    m.step.1.config.tape[cell]? = some a.write ∧
    ∀ i, i ≠ cell → m.step.1.config.tape[i]? = m.config.tape[i]?
  head : m.step.1.config.head = .ofIntClamp (m.config.head.toInt + a.step.toInt)
  state : m.step.1.config.state = a.next
  steps : m.step.1.steps = m.steps + 1

/-- `step` stops and leaves tape, head, state and number of steps as they are. -/
def Stays (m : Machine) : Prop :=
  (∃ t, m.step.2 = .stopped t) ∧ m.step.1.config = m.config ∧ m.step.1.steps = m.steps

/-- `action?` says what the next `step` will do. -/
structure Foretells (m : Machine) : Prop where
  moved_iff : m.step.2 = .moved ↔ ∃ a, m.action? = some a
  takes : ∀ a, m.action? = some a → m.Takes a
  stays : m.action? = none → m.Stays

theorem symbol?_eq_some_iff : m.symbol? = some x ↔
    ∃ cell, Head.index? m.config.head m.config.tape.size = some cell ∧
      m.config.tape[cell]? = some x := Option.bind_eq_some_iff

/-- **The look-up finds what is due**: there is an action if the machine is not halted and the
action is due in its configuration. -/
theorem action?_eq_some_iff : m.action? = some a ↔
    m.config.state ≠ m.halt ∧ ∃ cell x, m.program.Due m.config cell x a := by
  unfold action?
  by_cases hh : m.config.state = m.halt
  · simp [isHalted, hh]
  · rw [if_neg (by simpa [isHalted] using hh), Option.bind_eq_bind, Option.bind_eq_some_iff]
    constructor
    · rintro ⟨card, hc, h⟩
      obtain ⟨x, hx, ha⟩ := Option.bind_eq_some_iff.mp h
      obtain ⟨cell, hi, hs⟩ := symbol?_eq_some_iff.mp hx
      exact ⟨hh, cell, x, ⟨card, hc, ha⟩, hi, hs⟩
    · rintro ⟨-, cell, x, ⟨card, hc, ha⟩, hi, hs⟩
      exact ⟨card, hc, Option.bind_eq_some_iff.mpr ⟨x, symbol?_eq_some_iff.mpr ⟨cell, hi, hs⟩, ha⟩⟩

/-- **Without a failure the action is taken.** -/
theorem takes_of_action? (hf : m.failure = none) (h : m.action? = some a) : m.Takes a := by
  obtain ⟨hh, cell, x, hd⟩ := action?_eq_some_iff.mp h
  have hs := step_of_termination_eq_none (termination_eq_none_iff.mpr ⟨hh, hf⟩)
  rw [Program.transition_eq_ok_of_due hd] at hs
  refine ⟨by rw [hs], ⟨cell, hd.toInt_head.symm, ?_, fun i hi => ?_⟩, ?_, by rw [hs]; rfl,
    by rw [hs]⟩
  · rw [hs]
    exact Action.getElem?_perform_self hd.lt_size
  · rw [hs]
    exact Action.getElem?_perform_of_ne hi
  · rw [hs]
    exact hd.head_perform

/-- A call of `step` that moves on takes an action, and the machine has no failure. -/
theorem action?_of_moved (h : m.step.2 = .moved) :
    m.failure = none ∧ ∃ a, m.action? = some a := by
  have hstep : m.step = (m.step.1, .moved) := Prod.ext rfl h
  obtain ⟨ht, c, hc, -⟩ := transition_of_moved hstep
  obtain ⟨hh, hf⟩ := termination_eq_none_iff.mp ht
  obtain ⟨cell, x, a, hd, -⟩ := Program.due_of_transition_eq_ok hc
  exact ⟨hf, a, action?_eq_some_iff.mpr ⟨hh, cell, x, hd⟩⟩

/-- **A call of `step` that does not move on changes nothing** but the failure. -/
theorem stays_of_not_moved (h : m.step.2 ≠ .moved) : m.Stays := by
  rcases step_cases m with ⟨t, -, hs⟩ | ⟨-, c, -, hs⟩ | ⟨-, e, -, hs⟩
  · exact ⟨⟨t, by rw [hs]⟩, by rw [hs], by rw [hs]⟩
  · exact absurd (by rw [hs]) h
  · exact ⟨⟨.failed e, by rw [hs]⟩, by rw [hs], by rw [hs]⟩

theorem stays_of_failure (h : m.failure ≠ none) : m.Stays :=
  stays_of_not_moved fun hm => h (action?_of_moved hm).1

/-- **When `action?` says what `step` will do**: if the machine has no failure, or there is no
action. -/
theorem foretells_iff : m.Foretells ↔ m.failure = none ∨ m.action? = none := by
  constructor
  · intro h
    cases ha : m.action? with
    | none => exact .inr rfl
    | some a => exact .inl (action?_of_moved (h.takes a ha).moved).1
  · intro h
    have htakes : ∀ a, m.action? = some a → m.Takes a := fun a ha =>
      takes_of_action? (h.resolve_right (by rw [ha]; simp)) ha
    refine ⟨⟨fun hm => (action?_of_moved hm).2, ?_⟩, htakes, fun ha => ?_⟩
    · rintro ⟨a, ha⟩
      exact (htakes a ha).moved
    · refine stays_of_not_moved fun hm => ?_
      obtain ⟨-, a, ha'⟩ := action?_of_moved hm
      rw [ha] at ha'
      cases ha'

/-! ### Every history -/

/-- Where a machine stands as it failed there is no action. -/
theorem FailureDue.foretells (hm : m.FailureDue) : m.Foretells := by
  refine foretells_iff.mpr ?_
  cases hf : m.failure with
  | none => exact .inl rfl
  | some e =>
    refine .inr (Option.eq_none_iff_forall_ne_some.mpr fun a ha => ?_)
    obtain ⟨-, cell, x, hd⟩ := action?_eq_some_iff.mp ha
    have ht := (hm e hf).2
    rw [Program.transition_eq_ok_of_due hd] at ht
    cases ht

/-- Tame orders leave a failed machine where it failed. -/
theorem FailureDue.foldl_obey (hm : m.FailureDue) {orders : List Order} (ht : Tame m orders) :
    (orders.foldl obey m).FailureDue := by
  induction orders generalizing m with
  | nil => exact hm
  | cons order orders ih =>
    cases order with
    | call call =>
      have hcall := after_invariant (fun _ h => h.step) (fun _ _ => failureDue_of_none rfl) hm call
      exact ih hcall ht
    | withStates entry halt => exact ih (failureDue_of_none ht.1) ht.2

/-- **`action?` and `step` after any orders**: they agree exactly if the machine has no failure or
there is no action, and a machine with a failure stays as it is. So they agree after all orders that
choose other states only while there is no failure. -/
theorem foretells_of_built (h : Built p c m₀) (orders : List Order) :
    let m := orders.foldl obey m₀
    (m.Foretells ↔ m.failure = none ∨ m.action? = none) ∧
    (m.failure ≠ none → m.Stays) ∧
    (Tame m₀ orders → m.Foretells) := by
  obtain ⟨hreset, -, -⟩ := h.reset_eq
  have hnone : m₀.failure = none := by
    rw [← hreset]
    rfl
  exact ⟨foretells_iff, stays_of_failure,
    fun ht => ((failureDue_of_none hnone).foldl_obey ht).foretells⟩

open Program (sweeping)

theorem foretells_sweeping :
    Built sweeping ⟨#['a'], 0, 1⟩ (start sweeping ['a'] 0) ∧
      let m := [.withStates 9 0, .call .step, .call .reset, .withStates 1 0].foldl obey
        (start sweeping ['a'] 0)
      m.action? = some ⟨'b', 1, 1⟩ ∧ m.Takes ⟨'b', 1, 1⟩ := by
  have hbuilt : Built sweeping ⟨#['a'], 0, 1⟩ (start sweeping ['a'] 0) := .start _ _
  obtain ⟨-, -, htame⟩ := foretells_of_built hbuilt
    [.withStates 9 0, .call .step, .call .reset, .withStates 1 0]
  exact ⟨hbuilt, by decide, (htame ⟨rfl, rfl, trivial⟩).takes _ (by decide)⟩

/-- A machine fails in a state that has no card and is then taken to one that has. There is an
action, but `step` goes on to report the failure. -/
theorem not_foretells_sweeping :
    let m := [.withStates 9 0, .call .step, .withStates 1 0].foldl obey (start sweeping ['a'] 0)
    m.action? = some ⟨'b', 1, 1⟩ ∧ m.step.2 = .stopped (.failed (.unknownState 9)) ∧
      ¬ m.Foretells := by
  intro m
  have haction : m.action? = some ⟨'b', 1, 1⟩ := by decide
  have hstep : m.step.2 = .stopped (.failed (.unknownState 9)) := by decide
  refine ⟨haction, hstep, fun h => ?_⟩
  rw [(h.takes _ haction).moved] at hstep
  cases hstep

end CardMachine.Machine
