import CardMachine.Catalog.BuiltIn
import CardMachine.Proofs.Machine.Walk

/-! # Adding in unary

The built-in program that adds works on two rows of ones with one blank between them and one on each
side. It goes over the first row and puts a one on the blank after it, which makes one row of the
two with a one too many, goes on over the second row, and blanks the last one on its way back. If the
second row is empty, that is the one which it put between them. -/

namespace CardMachine.Catalog

open Program (Walk transition_on)

/-- A number as a row of ones. -/
def ones (n : Nat) : List Symbol := .replicate n '1'

/-- The tape with two numbers between blanks. -/
def pairTape (m n : Nat) (rest : List Symbol) : List Symbol :=
  '_' :: (ones m ++ '_' :: (ones n ++ '_' :: rest))

theorem length_ones (n : Nat) : (ones n).length = n := List.length_replicate

/-- Two rows with a one between them are one row. Its last one stands apart. -/
theorem ones_append_cons_ones (m n : Nat) (tail : List Symbol) :
    ones m ++ '1' :: (ones n ++ tail) = ones (m + n) ++ '1' :: tail := by
  have hrow : ones m ++ '1' :: ones n = ones (m + n) ++ ['1'] := by
    rw [ones, ones, ones, ← List.replicate_succ, ← List.replicate_succ',
      List.replicate_append_replicate, Nat.add_assoc]
  rw [← List.cons_append, ← List.append_assoc, hrow, List.append_assoc, List.singleton_append]

/-- **A search over a row of ones**, to the blank after it. -/
theorem walk_over_ones {p : Program} {state : StateId} {blank zero : Action} {j : Nat}
    (hstate : state ≠ 0) (hcard : p.card? state = some (bitCard blank zero ⟨'1', 1, state⟩))
    (left : List Symbol) (n : Nat) (right : List Symbol) (hl : left.length + n < 2 ^ 63)
    (hj : (j : Int) = left.length + n + blank.step.toInt) :
    p.Walk 0 (n + 1) (.on state (left ++ (ones n ++ '_' :: right)) left.length)
      (.on blank.next (left ++ (ones n ++ blank.write :: right)) j) := by
  have hones : ∀ x ∈ ones n, (bitCard blank zero ⟨'1', 1, state⟩).get? x = some ⟨x, 1, state⟩ := by
    intro x hx
    rw [List.eq_of_mem_replicate hx]
    exact get?_bitCard_one
  have hsearch := Walk.search hstate hcard left right hones get?_bitCard_blank
    (by rwa [length_ones]) (by rwa [length_ones])
  rwa [length_ones] at hsearch

/-- **The addition of two numbers**, after which the head is on the first blank after the sum. -/
theorem walk_unaryAddition (m n : Nat) (rest : List Symbol) (hmn : m + n + 2 < 2 ^ 63) :
    unaryAddition.Walk 0 (m + n + 4) (.on 1 (pairTape m n rest) 0)
      (.on 0 ('_' :: (ones (m + n) ++ '_' :: '_' :: rest)) (m + n + 1)) := by
  have hne₁ : (1 : StateId) ≠ 0 := by decide
  have hne₂ : (2 : StateId) ≠ 0 := by decide
  have hne₃ : (3 : StateId) ≠ 0 := by decide
  have hne₄ : (4 : StateId) ≠ 0 := by decide
  have hcard₁ : unaryAddition.card? 1 = some (bitCard ⟨'_', 1, 2⟩ reject reject) := rfl
  have hcard₂ : unaryAddition.card? 2 = some (bitCard ⟨'1', 1, 3⟩ reject ⟨'1', 1, 2⟩) := rfl
  have hcard₃ : unaryAddition.card? 3 = some (bitCard ⟨'_', -1, 4⟩ reject ⟨'1', 1, 3⟩) := rfl
  have hcard₄ : unaryAddition.card? 4 = some (bitCard reject reject ⟨'_', 0, 0⟩) := rfl
  have hstart : unaryAddition.transition (.on 1 (pairTape m n rest) 0) =
      .ok (.on 2 (pairTape m n rest) 1) :=
    transition_on [] _ hcard₁ get?_bitCard_blank (by decide) (by decide)
  have hfill := walk_over_ones (j := m + 2) hne₂ hcard₂ ['_'] m (ones n ++ '_' :: rest)
    (by rw [List.length_singleton]; omega) (by simp; omega)
  -- The second row begins after the left blank, the first row and the one that was put after it.
  have hleft : ('_' :: (ones m ++ ['1'])).length = m + 2 := by
    rw [List.length_cons, List.length_append, length_ones, List.length_singleton]
  have hturn := walk_over_ones (j := m + n + 1) hne₃ hcard₃ ('_' :: (ones m ++ ['1'])) n rest
    (by rw [hleft]; omega) (by rw [hleft]; simp; omega)
  rw [hleft, List.cons_append, List.append_assoc, List.singleton_append] at hturn
  have hsum : ('_' :: ones (m + n)).length = m + n + 1 := by rw [List.length_cons, length_ones]
  have hblank := transition_on (j := m + n + 1) ('_' :: ones (m + n)) ('_' :: rest) hcard₄
    get?_bitCard_one (by rw [hsum]; omega) (by rw [hsum]; rfl)
  rw [hsum, List.cons_append, List.cons_append, ← ones_append_cons_ones] at hblank
  have hall : unaryAddition.Walk 0 _ (.on 2 (pairTape m n rest) 1) _ :=
    hfill.append (hturn.append (.one hne₄ hblank))
  have hcount : m + 1 + (n + 1 + 1) + 1 = m + n + 4 := by omega
  rw [← hcount]
  exact .step hne₁ hstart hall

/-- **The built-in addition adds any two numbers** that stand as rows of ones between blanks. It
takes one transition for each one and four more. With a budget of at least that many it halts after
exactly that many. The row of their sum is then on the tape, with the head on the first of the two
blanks after it, and the cells after the second number's blank are as they were.

The head must have a position for the blank after the second number, as it has on every tape in
memory. -/
theorem run_unaryAddition (m n : Nat) (rest : List Symbol) (hmn : m + n + 2 < 2 ^ 63) :
    builtIn.program "Unary addition" = .ok unaryAddition ∧
    ∀ budget : UInt64, m + n + 4 ≤ budget.toNat →
      let r := unaryAddition.run (pairTape m n rest) 0 unaryAddition.entry unaryAddition.halt budget
      r.termination = .halted ∧ r.steps.toNat = m + n + 4 ∧ r.head.toInt = m + n + 1 ∧
      r.tape = '_' :: (ones (m + n) ++ '_' :: '_' :: rest) := by
  refine ⟨rfl, fun budget hb => ?_⟩
  intro r
  obtain ⟨ht, hsteps, hhead, htape⟩ := (walk_unaryAddition m n rest hmn).run_halts hb
  refine ⟨ht, hsteps, ?_, htape⟩
  have hcell : r.head = Head.ofIndex (m + n + 1) := hhead
  rw [hcell, Head.toInt_ofIndex (by omega)]
  rfl

/-- Two and nothing, where the one that is blanked is the one that was put between them, before a
symbol that the program does not know. -/
theorem run_unaryAddition_two_zero :
    2 + 0 + 2 < 2 ^ 63 ∧
      let r := unaryAddition.run "_11__x".toList 0 unaryAddition.entry unaryAddition.halt 6
      r.termination = .halted ∧ r.steps.toNat = 6 ∧ r.head.toInt = 3 ∧ r.tape = "_11__x".toList :=
  ⟨by decide, (run_unaryAddition 2 0 ['x'] (by decide)).2 6 (by decide)⟩

end CardMachine.Catalog
