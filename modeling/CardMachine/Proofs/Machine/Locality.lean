import CardMachine.Proofs.Machine.Budget
import CardMachine.Proofs.Machine.History

/-! # Which cells a run changes

A transition writes to the cell under its head and to no other, so a cell changes only when the head
comes to it. After any number of transitions a cell holds what the last transition that had its head
there wrote, or what it held at first if none had (`getElem?_configAt_iff`, by induction on the
number of transitions). A run is the first transitions of such a sequence, as many as its result
says, and the call of `step` that ends it changes nothing (`runWith_cell_iff`). -/

namespace CardMachine.Program

variable {p : Program} {c d e : Config} {i k n : Nat} {x : Symbol}

/-- After `k` transitions from `c` the head is at cell `i`. -/
def HeadAt (p : Program) (c : Config) (k i : Nat) : Prop :=
  ∃ d, p.configAt c k = .ok d ∧ d.head.toInt = i

/-- Of the first `n` transitions from `c`, counted from zero, number `k` is the last that has its
head at cell `i`, and it writes `x` there. -/
structure LastWrite (p : Program) (c : Config) (n i k : Nat) (x : Symbol) : Prop where
  lt : k < n
  writes : ∃ d scanned action, p.configAt c k = .ok d ∧ p.Due d i scanned action ∧ action.write = x
  last : ∀ j, k < j → j < n → ¬ p.HeadAt c j i

/-! ### One transition -/

/-- **A transition writes to the cell under the head.** -/
theorem exists_due_of_transition (h : p.transition d = .ok e) (hi : d.head.toInt = i) :
    ∃ scanned action, p.Due d i scanned action ∧ e.tape[i]? = some action.write := by
  obtain ⟨cell, scanned, action, hd, rfl⟩ := due_of_transition_eq_ok h
  obtain rfl : cell = i := Int.natCast_inj.mp (hd.toInt_head.symm.trans hi)
  exact ⟨scanned, action, hd, Action.getElem?_perform_self hd.lt_size⟩

/-- **A transition leaves the other cells as they are.** -/
theorem getElem?_of_transition (h : p.transition d = .ok e) (hi : d.head.toInt ≠ i) :
    e.tape[i]? = d.tape[i]? := by
  obtain ⟨cell, scanned, action, hd, rfl⟩ := due_of_transition_eq_ok h
  refine Action.getElem?_perform_of_ne ?_
  rintro rfl
  exact hi hd.toInt_head

theorem headAt_iff (hd : p.configAt c k = .ok d) : p.HeadAt c k i ↔ d.head.toInt = i := by
  refine ⟨fun ⟨d', hd', hi⟩ => ?_, fun hi => ⟨d, hd, hi⟩⟩
  rw [hd] at hd'
  cases hd'
  exact hi

/-- A transition with its head at the cell is the last that has. -/
theorem exists_lastWrite_succ_iff (hd : p.configAt c n = .ok d) (he : p.transition d = .ok e)
    (hi : d.head.toInt = i) : (∃ k, p.LastWrite c (n + 1) i k x) ↔ e.tape[i]? = some x := by
  constructor
  · rintro ⟨k, hk⟩
    obtain rfl : k = n := (Nat.lt_succ_iff_lt_or_eq.mp hk.lt).resolve_left fun hlt =>
      hk.last n hlt (Nat.lt_succ_self n) ((headAt_iff hd).mpr hi)
    obtain ⟨d', scanned, action, hd', hdue, rfl⟩ := hk.writes
    rw [hd] at hd'
    cases hd'
    have ht := transition_eq_ok_of_due hdue
    rw [he] at ht
    cases ht
    exact Action.getElem?_perform_self hdue.lt_size
  · intro hx
    obtain ⟨scanned, action, hdue, hwrite⟩ := exists_due_of_transition he hi
    rw [hwrite] at hx
    exact ⟨n, Nat.lt_succ_self n, ⟨d, scanned, action, hd, hdue, Option.some.inj hx⟩,
      fun j hj hlt => by omega⟩

/-- A transition with its head elsewhere does not count. -/
theorem lastWrite_succ_iff (hn : ¬ p.HeadAt c n i) :
    p.LastWrite c (n + 1) i k x ↔ p.LastWrite c n i k x := by
  constructor
  · intro hk
    have hne : k ≠ n := by
      rintro rfl
      obtain ⟨d, scanned, action, hd, hdue, -⟩ := hk.writes
      exact hn ⟨d, hd, hdue.toInt_head⟩
    have hlt := hk.lt
    exact ⟨by omega, hk.writes, fun j hkj hj => hk.last j hkj (by omega)⟩
  · intro hk
    refine ⟨Nat.lt_succ_of_lt hk.lt, hk.writes, fun j hkj hj => ?_⟩
    rcases Nat.lt_succ_iff_lt_or_eq.mp hj with hj | rfl
    · exact hk.last j hkj hj
    · exact hn

/-! ### Any number of transitions -/

/-- **The last writer wins**: a cell holds what the last transition with its head there wrote, or
what it held at first if the head was never there. -/
theorem getElem?_configAt_iff : ∀ {n : Nat} {d : Config}, p.configAt c n = .ok d →
    (d.tape[i]? = some x ↔ (∃ k, p.LastWrite c n i k x) ∨
      (∀ k < n, ¬ p.HeadAt c k i) ∧ c.tape[i]? = some x)
  | 0, _, rfl => by
    refine ⟨fun hx => .inr ⟨fun k hk => absurd hk (Nat.not_lt_zero k), hx⟩, ?_⟩
    rintro (⟨k, hk⟩ | ⟨-, hx⟩)
    · exact absurd hk.lt (Nat.not_lt_zero k)
    · exact hx
  | n + 1, e, h => by
    obtain ⟨d, hd, he⟩ := configAt_succ_eq_ok_iff.mp h
    by_cases hi : d.head.toInt = i
    · have hnow : ¬ ∀ k < n + 1, ¬ p.HeadAt c k i := fun hall =>
        hall n (Nat.lt_succ_self n) ((headAt_iff hd).mpr hi)
      rw [exists_lastWrite_succ_iff hd he hi]
      exact ⟨.inl, fun hx => hx.resolve_right fun hall => hnow hall.1⟩
    · have hn : ¬ p.HeadAt c n i := fun hat => hi ((headAt_iff hd).mp hat)
      have hall : (∀ k < n + 1, ¬ p.HeadAt c k i) ↔ ∀ k < n, ¬ p.HeadAt c k i :=
        ⟨fun hall k hk => hall k (Nat.lt_succ_of_lt hk), fun hall k hk =>
          (Nat.lt_succ_iff_lt_or_eq.mp hk).elim (hall k) fun hk => hk ▸ hn⟩
      simp only [getElem?_of_transition he hi, lastWrite_succ_iff hn, hall]
      exact getElem?_configAt_iff hd

/-! ### Whole runs -/

/-- **Only the cells under the head change.** The transitions of a run are the first of the
sequence from its start, and every cell of the last tape holds what the last of them with the head
there wrote, or what it held at first if none of them had its head there. A call of `step` that
stops, because the machine has halted or its transition fails, changes nothing. -/
theorem runWith_cell_iff {σ : Type} (p : Program) (tape : List Symbol) (head : Int64)
    (entry halt : StateId) (budget : UInt64) (see : σ → Snapshot → σ) (s : σ) :
    let r := (p.runWith tape head entry halt budget see s).1
    let c : Config := ⟨tape.toArray, head, entry⟩
    (p.configAt c r.steps.toNat = .ok r.config ∧
      ∀ y ∈ (p.watch tape head entry halt budget).2, p.configAt c y.steps = .ok y.toConfig) ∧
    (∀ i x, r.tape[i]? = some x ↔ (∃ k, p.LastWrite c r.steps.toNat i k x) ∨
      (∀ k < r.steps.toNat, ¬ p.HeadAt c k i) ∧ tape[i]? = some x) ∧
    ∀ (m m' : Machine) (t : Termination), m.step = (m', .stopped t) → m'.config = m.config := by
  obtain ⟨l, m, t, hr, hrun, hwatch⟩ := p.exists_runs tape head entry halt budget
  rw [hrun, hwatch]
  intro r c
  obtain ⟨hm, hl⟩ := hr.invariant (fun _ h => h.step) (Machine.traces_self rfl)
  have hconfig : p.configAt c r.steps.toNat = .ok r.config := by
    rw [hr.steps_result rfl]
    exact hm.config
  refine ⟨⟨hconfig, fun y hy => ?_⟩, fun i x => ?_, fun m m' t => Machine.config_of_stopped⟩
  · obtain ⟨m₁, hm₁, rfl⟩ := hl y hy
    exact hm₁.config
  · have hcell := getElem?_configAt_iff (i := i) (x := x) hconfig
    simpa only [RunResult.config, c, List.getElem?_toArray] using hcell

end CardMachine.Program
