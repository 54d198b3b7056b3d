import CardMachine.Proofs.Machine.Observer
import Mathlib.Algebra.Order.Ring.Int
import Mathlib.Data.List.Forall2

/-! # Heads that run out of range

The head of a machine is a signed word, and a move that would leave the range of such words stops at
its end. Here the same run is made with heads that are any integers (`Unbounded.run`), and the
machine is compared with it: it has the same tape and state, and its head is the integer kept in
range (`Unbounded.Config.Clamped`).

A transition starts from a cell of the tape, so it ends above the lower end of the range; and a tape
has fewer cells than there are positions in range, so the last of them is off the tape. A head that
is not where it should be is therefore at the upper end, off the tape, and no transition starts
there: the two fail together, and what is kept of a head out of range never comes back
(`transition_clamped`, `clamped_of_runs`). -/

namespace CardMachine

/-- The position in range that is closest to an integer. -/
def Head.clamp (i : Int) : Int := max (-2 ^ 63) (min i (2 ^ 63 - 1))

namespace Unbounded

/-! ### Runs with any integer as head -/

/-- What a transition acts on. -/
structure Config where
  tape : Array Symbol
  head : Int
  state : StateId

/-- Why a transition cannot be taken. -/
inductive RunError where
  | undefinedSymbol (symbol : Symbol) (cell : Nat)
  | unknownState (state : StateId)
  | outOfBounds (head : Int) (length : Nat)
  deriving DecidableEq

/-- How a run ended. -/
inductive Termination where
  | halted
  | budgetExhausted
  | failed (error : RunError)
  deriving DecidableEq

/-- A run: the configurations after each transition, the last configuration and the end. -/
structure Outcome where
  seen : List Config
  last : Config
  termination : Termination

/-- The symbol under the head, if the head is on the tape. -/
def Config.symbol? (w : Config) : Option Symbol :=
  if 0 ≤ w.head then w.tape[w.head.toNat]? else none

/-- The configuration after one transition. -/
def transition (p : Program) (w : Config) : Except RunError Config :=
  match p.card? w.state with
  | none => .error (.unknownState w.state)
  | some card =>
    match w.symbol? with
    | none => .error (.outOfBounds w.head w.tape.size)
    | some scanned =>
      match card.get? scanned with
      | none => .error (.undefinedSymbol scanned w.head.toNat)
      | some action => .ok
        { tape := w.tape.setIfInBounds w.head.toNat action.write
          head := w.head + action.step.toInt
          state := action.next }

/-- A run of at most `budget` transitions. -/
def run (p : Program) (halt : StateId) : (budget : Nat) → Config → Outcome
  | 0, w => ⟨[], w, if w.state = halt then .halted else .budgetExhausted⟩
  | n + 1, w =>
    if w.state = halt then ⟨[], w, .halted⟩
    else
      match transition p w with
      | .error e => ⟨[], w, .failed e⟩
      | .ok w' =>
        let o := run p halt n w'
        { o with seen := w' :: o.seen }

/-! ### What the machine makes of them -/

/-- The configuration `c` is `w` with its head kept in range. -/
structure Config.Clamped (w : Config) (c : CardMachine.Config) : Prop where
  tape : c.tape = w.tape
  head : c.head.toInt = Head.clamp w.head
  state : c.state = w.state
  /-- The head is not out of range at the lower end. -/
  low : -2 ^ 63 ≤ w.head
  /-- A head that was out of range is at no cell of the tape. -/
  off : c.head.toInt ≠ w.head → Head.index? c.head c.tape.size = none

/-- The same failure, with the head kept in range. -/
inductive RunError.Clamped : RunError → CardMachine.RunError → Prop where
  | undefinedSymbol {symbol : Symbol} {i : Nat} {cell : UInt64} (h : cell.toNat = i) :
      Clamped (.undefinedSymbol symbol i) (.undefinedSymbol symbol cell)
  | unknownState (state : StateId) : Clamped (.unknownState state) (.unknownState state)
  | outOfBounds {i : Int} {n : Nat} {head : Int64} {length : UInt64}
      (hhead : head.toInt = Head.clamp i) (hlength : length.toNat = n) :
      Clamped (.outOfBounds i n) (.outOfBounds head length)

/-- The same end, with the head kept in range. -/
inductive Termination.Clamped : Termination → CardMachine.Termination → Prop where
  | halted : Clamped .halted .halted
  | budgetExhausted : Clamped .budgetExhausted .budgetExhausted
  | failed {e : RunError} {e' : CardMachine.RunError} (h : e.Clamped e') :
      Clamped (.failed e) (.failed e')

variable {p : Program} {w : Config} {c : CardMachine.Config} {i : Nat}

theorem toInt_ofIntClamp (i : Int) : (Int64.ofIntClamp i).toInt = Head.clamp i := by
  have hmin : Int64.minValue.toInt = -2 ^ 63 := rfl
  have hmax : Int64.maxValue.toInt = 2 ^ 63 - 1 := rfl
  unfold Int64.ofIntClamp Head.clamp
  split
  · split
    · rw [Int64.toInt_ofIntLE]
      omega
    · omega
  · omega

/-- On a tape with fewer cells than there are positions, only a head out of range is displaced. -/
theorem clamped_of_size (hsize : w.tape.size < 2 ^ 63) (htape : c.tape = w.tape)
    (hhead : c.head.toInt = Head.clamp w.head) (hstate : c.state = w.state)
    (hlow : -2 ^ 63 ≤ w.head) : w.Clamped c where
  tape := htape
  head := hhead
  state := hstate
  low := hlow
  off hne := by
    have hlast : c.head.toInt = 2 ^ 63 - 1 := by
      rw [hhead] at hne ⊢
      unfold Head.clamp at hne ⊢
      omega
    rw [Head.index?, htape, hlast, if_neg (by omega)]

/-- **The two heads are at the same cell**, or both off the tape. -/
theorem index?_eq_some_iff (hsize : w.tape.size < 2 ^ 63) (h : w.Clamped c) :
    Head.index? c.head c.tape.size = some i ↔ (i : Int) = w.head ∧ i < w.tape.size := by
  rw [Head.index?_eq_some_iff, h.tape, h.head]
  unfold Head.clamp
  omega

theorem symbol?_eq_none (hsize : w.tape.size < 2 ^ 63) (h : w.Clamped c)
    (hi : Head.index? c.head c.tape.size = none) : w.symbol? = none := by
  unfold Config.symbol?
  split
  · rename_i hnonneg
    refine Array.getElem?_eq_none (Nat.le_of_not_lt fun hlt => ?_)
    have hindex := (index?_eq_some_iff hsize h).mpr ⟨Int.toNat_of_nonneg hnonneg, hlt⟩
    rw [hi] at hindex
    cases hindex
  · rfl

theorem symbol?_of_index? (hsize : w.tape.size < 2 ^ 63) (h : w.Clamped c)
    (hi : Head.index? c.head c.tape.size = some i) :
    w.head = i ∧ w.symbol? = c.tape[i]? := by
  obtain ⟨hhead, -⟩ := (index?_eq_some_iff hsize h).mp hi
  refine ⟨hhead.symm, ?_⟩
  rw [Config.symbol?, ← hhead, if_pos (Int.natCast_nonneg i), Int.toNat_natCast, h.tape]

/-- **One transition**: the two take it together, with the same symbol written and the head moved
from the same cell, or fail together for the same reason. -/
theorem transition_clamped (hsize : w.tape.size < 2 ^ 63) (h : w.Clamped c) :
    (∃ w' c', transition p w = .ok w' ∧ p.transition c = .ok c' ∧
      w'.tape.size = w.tape.size ∧ w'.Clamped c') ∨
    ∃ e e', transition p w = .error e ∧ p.transition c = .error e' ∧ e.Clamped e' := by
  rcases p.transition_cases c with ⟨cell, x, a, hd, ht⟩ | ⟨e', hs, ht⟩
  · obtain ⟨card, hc, ha⟩ := hd.card
    obtain ⟨hhead, hsymbol⟩ := symbol?_of_index? hsize h hd.index
    have hw : transition p w = .ok ⟨w.tape.setIfInBounds cell a.write, cell + a.step.toInt,
        a.next⟩ := by
      simp only [transition, ← h.state, hc, hsymbol, hd.symbol, ha, hhead, Int.toNat_natCast]
    have hstep := a.step.le_toInt
    refine .inl ⟨_, _, hw, ht, Array.size_setIfInBounds, clamped_of_size ?_ ?_ ?_ rfl ?_⟩
    · rwa [Array.size_setIfInBounds]
    · exact congrArg (·.setIfInBounds cell a.write) h.tape
    · rw [hd.head_perform, Head.move, toInt_ofIntClamp, hd.toInt_head]
    · show -2 ^ 63 ≤ (cell : Int) + a.step.toInt
      omega
  · refine .inr ?_
    cases hs with
    | unknownState hc =>
      refine ⟨_, _, ?_, ht, .unknownState _⟩
      simp only [transition, ← h.state, hc]
    | outOfBounds card hc hi =>
      refine ⟨.outOfBounds w.head w.tape.size, _, ?_, ht, .outOfBounds h.head ?_⟩
      · simp only [transition, ← h.state, hc, symbol?_eq_none hsize h hi]
      · rw [h.tape]
        exact UInt64.toNat_ofNat_of_lt' (by show _ < 2 ^ 64; omega)
    | undefinedSymbol card cell x hc hi hx ha =>
      obtain ⟨hhead, hsymbol⟩ := symbol?_of_index? hsize h hi
      have hlt := ((index?_eq_some_iff hsize h).mp hi).2
      refine ⟨.undefinedSymbol x cell, _, ?_, ht, .undefinedSymbol ?_⟩
      · simp only [transition, ← h.state, hc, hsymbol, hx, ha, hhead, Int.toNat_natCast]
      · exact UInt64.toNat_ofNat_of_lt' (by show _ < 2 ^ 64; omega)

/-! ### Whole runs -/

theorem run_of_halted {halt : StateId} (h : w.state = halt) :
    ∀ n, run p halt n w = ⟨[], w, .halted⟩
  | 0 => by rw [run, if_pos h]
  | n + 1 => by rw [run, if_pos h]

/-- **A run of the machine is the run with unbounded heads**, seen with the heads kept in range. -/
theorem clamped_of_runs {n : Nat} {m m' : Machine} {l : List Snapshot}
    {t : CardMachine.Termination} (hr : Machine.Runs n m l m' t) (hf : m.failure = none) :
    ∀ {w : Config}, w.tape.size < 2 ^ 63 → w.Clamped m.config →
      let o := run m.program m.halt n w
      List.Forall₂ (fun w x => w.Clamped x.toConfig) o.seen l ∧ o.last.Clamped m'.config ∧
        o.termination.Clamped t := by
  induction hr with
  | spent m =>
    intro w hsize hw
    by_cases hh : m.config.state = m.halt
    · rw [Machine.termination_of_halted hh, run_of_halted (hw.state ▸ hh)]
      exact ⟨.nil, hw, .halted⟩
    · rw [Machine.termination_eq_none_iff.mpr ⟨hh, hf⟩, run, if_neg (hw.state ▸ hh)]
      exact ⟨.nil, hw, .budgetExhausted⟩
  | @stop n m m' t h =>
    intro w hsize hw
    rcases Machine.transition_of_stopped h with ⟨ht, rfl⟩ | ⟨ht, e, he, rfl, rfl⟩
    · obtain ⟨hh, rfl⟩ := Machine.halted_of_termination ht hf
      rw [run_of_halted (hw.state ▸ hh)]
      exact ⟨.nil, hw, .halted⟩
    · have hh := (Machine.termination_eq_none_iff.mp ht).1
      rcases transition_clamped (p := m.program) hsize hw with
        ⟨-, c', -, hc, -⟩ | ⟨e', e'', hw', he', hclamped⟩
      · rw [he] at hc
        cases hc
      · rw [he] at he'
        cases he'
        rw [run, if_neg (hw.state ▸ hh), hw']
        exact ⟨.nil, hw, .failed hclamped⟩
  | @move n m m₁ m' l t h _ ih =>
    intro w hsize hw
    obtain ⟨ht, c, hc, rfl⟩ := Machine.transition_of_moved h
    have hh := (Machine.termination_eq_none_iff.mp ht).1
    rcases transition_clamped (p := m.program) hsize hw with
      ⟨w', c', hw', hc', hsize', hclamped⟩ | ⟨-, e, -, he, -⟩
    · rw [hc] at hc'
      cases hc'
      rw [run, if_neg (hw.state ▸ hh), hw']
      obtain ⟨hseen, hlast, hend⟩ := ih hf (by rwa [hsize']) hclamped
      exact ⟨.cons hclamped hseen, hlast, hend⟩
    · rw [hc] at he
      cases he

end Unbounded

namespace Program

/-- **Heads in range agree with unbounded heads** on a tape with fewer cells than there are positions
in range. The run takes as many transitions as the one with any integer as head, ends for the same
reason and has at the end, as at the start and after each transition, the same tape and state and
the head kept in range; it is never out of range at the lower end, and off the tape where it is at
the upper end. The number of transitions never exceeds the budget, which is a word. -/
theorem runWith_clamped {σ : Type} (p : Program) (tape : List Symbol) (head : Int64)
    (entry halt : StateId) (budget : UInt64) (see : σ → Snapshot → σ) (s : σ)
    (htape : tape.length ≤ 2 ^ 63 - 1) :
    let r := (p.runWith tape head entry halt budget see s).1
    let seen := (p.watch tape head entry halt budget).2
    let w : Unbounded.Config := ⟨tape.toArray, head.toInt, entry⟩
    let o := Unbounded.run p halt budget.toNat w
    (o.last.Clamped r.config ∧ r.steps.toNat = o.seen.length ∧
      o.termination.Clamped r.termination) ∧
    (w.Clamped ⟨tape.toArray, head, entry⟩ ∧
      List.Forall₂ (fun w x => w.Clamped x.toConfig) o.seen seen) ∧
    r.steps ≤ budget ∧ ∀ x ∈ seen, x.steps ≤ budget.toNat := by
  obtain ⟨l, m, t, hr, hrun, hwatch⟩ := p.exists_runs tape head entry halt budget
  rw [hrun, hwatch]
  intro r seen w o
  have hsize : w.tape.size < 2 ^ 63 := by
    show tape.length < 2 ^ 63
    omega
  have hrange : head.toInt = Head.clamp head.toInt := by
    have hlow := head.le_toInt
    have hhigh := head.toInt_lt
    unfold Head.clamp
    omega
  have hw : w.Clamped ⟨tape.toArray, head, entry⟩ :=
    Unbounded.clamped_of_size hsize rfl hrange rfl head.le_toInt
  obtain ⟨hseen, hlast, hend⟩ := Unbounded.clamped_of_runs hr rfl hsize hw
  have hsteps : r.steps.toNat = seen.length := Machine.toNat_steps_result hr rfl
  refine ⟨⟨hlast, hsteps.trans hseen.length_eq.symm, hend⟩, ⟨hw, hseen⟩, ?_, fun x hx => ?_⟩
  · rw [UInt64.le_iff_toNat_le, hsteps]
    exact hr.length_le
  · obtain ⟨i, hi, rfl⟩ := List.getElem_of_mem hx
    have hnumber : seen[i].steps = 0 + (i + 1) := steps_of_isChain hr.isChain i hi
    have hle : seen.length ≤ budget.toNat := hr.length_le
    omega

/-- A program that leaves the range of head positions with one move. -/
def leaping : Program where
  name := "Leaping"
  alphabet := KeySet.ofList ['a']
  markers := KeySet.ofList ['b']
  entry := 1
  halt := 0
  states := KeyMap.ofList [(0, .halting),
    (1, .executable (KeyMap.ofList [('a', { write := 'b', step := Int64.maxValue, next := 1 })]))]
  input := none

theorem runWith_clamped_leaping :
    ['a', 'a'].length ≤ 2 ^ 63 - 1 ∧
    let r := leaping.run ['a', 'a'] 1 1 0 5
    let o := Unbounded.run leaping 0 5 ⟨#['a', 'a'], 1, 1⟩
    r.termination = .failed (.outOfBounds Int64.maxValue 2) ∧
    o.termination = .failed (.outOfBounds (2 ^ 63) 2) ∧
    o.last.Clamped r.config ∧ o.termination.Clamped r.termination :=
  have hlength : ['a', 'a'].length ≤ 2 ^ 63 - 1 := by decide
  have hrun := runWith_clamped leaping ['a', 'a'] 1 1 0 5 (fun _ _ => ()) () hlength
  ⟨hlength, by decide, by decide, hrun.1.1, hrun.1.2.2⟩

end Program

end CardMachine
