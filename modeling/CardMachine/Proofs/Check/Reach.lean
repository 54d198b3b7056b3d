import CardMachine.Proofs.Check.Search
import CardMachine.Proofs.Machine.Simulation

/-! # Unreachable states are dead

A run only comes to states that can be reached (`Entered.step`), and the check for unreachable
states finds none of these, so a run never looks at the card of a state that is reported. Without
the reported states it is the same run, and none of the states that are left is unreachable
(`run_without_unreachable`). -/

namespace CardMachine.Program

variable {p q : Program} {state : StateId}

/-! ### Programs without some of their states -/

/-- The program without the states of a list. -/
def without (p : Program) (ids : List StateId) : Program :=
  { p with states :=
    { entries := p.states.entries.filter fun e => decide (e.1 ∉ ids)
      increasing := p.states.increasing.filter _ } }

theorem card?_without_iff {ids : List StateId} {card : Card} :
    (p.without ids).card? state = some card ↔ p.card? state = some card ∧ state ∉ ids := by
  simp only [card?, Option.bind_eq_some_iff, KeyMap.get?_eq_some_iff, without, List.mem_filter,
    decide_eq_true_eq]
  constructor
  · rintro ⟨st, ⟨hst, hid⟩, hc⟩; exact ⟨⟨st, hst, hc⟩, hid⟩
  · rintro ⟨⟨st, hst, hc⟩, hid⟩; exact ⟨st, ⟨hst, hid⟩, hc⟩

theorem card?_without {ids : List StateId} (h : state ∉ ids) :
    (p.without ids).card? state = p.card? state := by
  refine Option.ext fun card => ?_
  rw [card?_without_iff, and_iff_left h]

/-- Without states that cannot be reached, the others are reached as before. -/
theorem Reaches.without {ids : List StateId} (hids : ∀ id ∈ ids, ¬ p.Reaches id)
    (h : p.Reaches state) : (p.without ids).Reaches state := by
  induction h with
  | entry => exact .entry
  | next h hne hc ha ih =>
    exact .next ih hne (card?_without_iff.mpr ⟨hc, fun hid => hids _ hid h⟩) ha

/-- The states that are reported as unreachable. -/
def reportedUnreachable (p : Program) : List StateId :=
  p.problems.flatMap fun
    | .unreachableStates ids => ids
    | _ => []

theorem mem_reportedUnreachable_iff : state ∈ p.reportedUnreachable ↔ state ∈ p.unreachable := by
  simp only [reportedUnreachable, List.mem_flatMap]
  constructor
  · rintro ⟨x, hx, hs⟩
    split at hs
    · obtain ⟨rfl, -⟩ := unreachableStates_mem_problems_iff.mp hx
      exact hs
    · cases hs
  · intro h
    exact ⟨_, unreachableStates_mem_problems_iff.mpr ⟨rfl, List.ne_nil_of_mem h⟩, h⟩

/-! ### Runs -/

/-- Where a state has the same card, the transition is the same. -/
theorem transition_congr {c : Config} (h : q.card? c.state = p.card? c.state) :
    q.transition c = p.transition c := by
  unfold transition due
  rw [h]

/-- A machine at work on the program, in a state that can be reached. -/
structure Entered (p : Program) (m : Machine) : Prop where
  program : m.program = p
  halt : m.halt = p.halt
  reaches : p.Reaches m.config.state

/-- **One call of `step` goes from a reachable state to a reachable state.** -/
theorem Entered.step {m : Machine} (hm : p.Entered m) : p.Entered m.step.1 := by
  rcases Machine.step_cases m with ⟨t, -, hs⟩ | ⟨ht, c, hc, hs⟩ | ⟨-, e, -, hs⟩
  · rw [hs]; exact hm
  · rw [hs]
    have hne : m.config.state ≠ p.halt := hm.halt ▸ (Machine.termination_eq_none_iff.mp ht).1
    rw [hm.program] at hc
    obtain ⟨cell, x, a, ⟨⟨card, hcard, ha⟩, -, -⟩, rfl⟩ := due_of_transition_eq_ok hc
    exact { hm with reaches := .next hm.reaches hne hcard (KeyMap.get?_eq_some_iff.mp ha) }
  · rw [hs]; exact { hm with }

/-- **A run is the same with another program** that has the same cards for the states that can be
reached. -/
theorem runs_congr (hq : ∀ id, p.Reaches id → q.card? id = p.card? id) {n : Nat} {m m' : Machine}
    {l : List Snapshot} {t : Termination} (hr : Machine.Runs n m l m' t) (hm : p.Entered m) :
    Machine.Runs n { m with program := q } l { m' with program := q } t := by
  have hsame : ∀ x, p.Entered x → q.transition x.config = x.program.transition x.config :=
    fun x hx => transition_congr (hx.program ▸ hq _ hx.reaches)
  exact View.runs_of_transition_eq (fun _ hx => hx.step) hr hsame hm

/-- **Unreachable states are dead**: without the states that are reported as unreachable, a program
runs as before, with any observer, and no state is reported as unreachable. -/
theorem run_without_unreachable (p : Program) (tape : List Symbol) (head : Int64)
    (budget : UInt64) :
    let q := p.without p.reportedUnreachable
    q.watch tape head p.entry p.halt budget = p.watch tape head p.entry p.halt budget ∧
    (∀ (σ : Type) (see : σ → Snapshot → σ) (s : σ),
      q.runWith tape head p.entry p.halt budget see s =
        p.runWith tape head p.entry p.halt budget see s) ∧
    ∀ ids, .unreachableStates ids ∉ q.problems := by
  intro q
  have hdead : ∀ id ∈ p.reportedUnreachable, ¬ p.Reaches id := fun id hid =>
    (mem_unreachable_iff.mp (mem_reportedUnreachable_iff.mp hid)).2.2
  obtain ⟨l, m, t, hr, hrun, hwatch⟩ := p.exists_runs tape head p.entry p.halt budget
  have hq := runs_congr (q := q) (fun id hid => card?_without fun h => hdead id h hid) hr
    ⟨rfl, rfl, .entry⟩
  refine ⟨?_, fun σ see s => ?_, fun ids hids => ?_⟩
  · rw [hwatch]
    exact watch_of_runs (m := { m with program := q }) hq
  · rw [hrun]
    exact runWith_of_runs (m := { m with program := q }) hq see s
  · obtain ⟨-, hne⟩ := unreachableStates_mem_problems_iff.mp hids
    obtain ⟨id, hid⟩ := List.exists_mem_of_ne_nil _ hne
    obtain ⟨⟨card, hc⟩, hhalt, hnot⟩ := mem_unreachable_iff.mp hid
    obtain ⟨hc, hkept⟩ := card?_without_iff.mp hc
    refine hkept (mem_reportedUnreachable_iff.mpr (mem_unreachable_iff.mpr ⟨⟨card, hc⟩, hhalt, ?_⟩))
    exact fun h => hnot (h.without hdead)

end CardMachine.Program
