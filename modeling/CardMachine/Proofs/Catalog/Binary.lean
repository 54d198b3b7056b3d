import CardMachine.Catalog.BuiltIn
import CardMachine.Proofs.Machine.Walk
import Mathlib.Data.Nat.Digits.Defs

/-! # Counting in binary

The built-in programs that add one and take one away work on a word of bits between two blanks. Both
go from the blank on the left to the one on the right (`Counts.walk_to_end`) and from there back over
one bit at the end of the word, the ones or the zeros, which they flip (`Counts.walk_back`). The cell
before them is the last of the other bits and is flipped too (`Counts.walk_carry`) or, if there is
none, the blank on the left, in which the increment puts a one and the decrement a mark
(`Counts.walk_overflow`).

So the increment makes the next number of every word (`run_increment`). The decrement makes the one
before it if there is one, and takes back every increment that stays within the word
(`run_decrement`). -/

namespace CardMachine.Catalog

open Program (Walk transition_on)

variable {w u : List Bool} {rest : List Symbol} {k : Nat}

/-! ### Words of bits -/

/-- The symbol of a bit. -/
def bit (b : Bool) : Symbol := if b then '1' else '0'

/-- The symbols of a word. -/
def bits (w : List Bool) : List Symbol := w.map bit

/-- The number that a word stands for, with the highest bit first. -/
def value (w : List Bool) : Nat := Nat.ofDigits 2 (w.map Bool.toNat).reverse

/-- How often a bit stands at the end of a word. -/
def trailing (b : Bool) (w : List Bool) : Nat := (w.reverse.takeWhile (· == b)).length

/-- The tape with a word between two blanks. -/
def wordTape (w : List Bool) (rest : List Symbol) : List Symbol := '_' :: (bits w ++ '_' :: rest)

/-- The digit in a cell. A blank counts as zero. -/
def digit? : Symbol → Option Nat
  | '_' | '0' => some 0
  | '1' => some 1
  | _ => none

/-- The number in a row of cells, if they hold digits. -/
def number? (cells : List Symbol) : Option Nat :=
  (cells.mapM digit?).map fun ds => Nat.ofDigits 2 ds.reverse

theorem length_bits (w : List Bool) : (bits w).length = w.length := List.length_map bit

theorem number?_bits (w : List Bool) : number? (bits w) = some (value w) := by
  have hdigits : (bits w).mapM digit? = some (w.map Bool.toNat) := by
    induction w with
    | nil => rfl
    | cons b w ih =>
      have hb : digit? (bit b) = some b.toNat := by cases b <;> rfl
      rw [bits, List.map_cons, List.mapM_cons, hb, ← bits, ih]
      rfl
  rw [number?, hdigits]
  rfl

/-- A leading blank does not change the number. -/
theorem number?_blank (cells : List Symbol) : number? ('_' :: cells) = number? cells := by
  have hblank : digit? '_' = some 0 := rfl
  rw [number?, number?, List.mapM_cons, hblank]
  cases cells.mapM digit? with
  | none => rfl
  | some ds =>
    show some (Nat.ofDigits 2 (0 :: ds).reverse) = some (Nat.ofDigits 2 ds.reverse)
    rw [List.reverse_cons, Nat.ofDigits_append_zero]

/-! ### The end of a word -/

theorem trailing_append_singleton (b x : Bool) (w : List Bool) :
    trailing b (w ++ [x]) = if x = b then trailing b w + 1 else 0 := by
  unfold trailing
  rw [List.reverse_append, List.reverse_singleton, List.singleton_append, List.takeWhile_cons]
  by_cases hx : x = b
  · simp [hx]
  · simp [hx]

/-- **A word ends with a run of a bit**, which is all of it or comes after the other bit. -/
theorem eq_replicate_or_append (b : Bool) (w : List Bool) :
    w = .replicate (trailing b w) b ∨ ∃ u, w = u ++ (!b) :: .replicate (trailing b w) b := by
  induction w using List.reverseRecOn with
  | nil => exact .inl rfl
  | append_singleton w x ih =>
    rw [trailing_append_singleton]
    by_cases hx : x = b
    · subst hx
      rw [if_pos rfl, List.replicate_succ']
      rcases ih with ih | ⟨u, ih⟩
      · exact .inl (congrArg (· ++ [x]) ih)
      · refine .inr ⟨u, ?_⟩
        rw [← List.cons_append, ← List.append_assoc]
        exact congrArg (· ++ [x]) ih
    · rw [if_neg hx, List.replicate_zero, Bool.eq_not_of_ne hx]
      exact .inr ⟨w, rfl⟩

/-! ### Numbers -/

theorem value_append (u w : List Bool) : value (u ++ w) = value w + 2 ^ w.length * value u := by
  rw [value, List.map_append, List.reverse_append, Nat.ofDigits_append, List.length_reverse,
    List.length_map]
  rfl

theorem value_cons (b : Bool) (w : List Bool) :
    value (b :: w) = value w + 2 ^ w.length * b.toNat := by
  have hbit : value [b] = b.toNat := Nat.ofDigits_singleton
  rw [← List.singleton_append, value_append, hbit]

theorem value_replicate_false (k : Nat) : value (.replicate k false) = 0 := by
  rw [value, List.map_replicate, List.reverse_replicate]
  exact Nat.ofDigits_replicate_zero

theorem value_replicate_true : ∀ k : Nat, value (.replicate k true) + 1 = 2 ^ k
  | 0 => rfl
  | k + 1 => by
    have ih := value_replicate_true k
    rw [List.replicate_succ, value_cons, List.length_replicate, Bool.toNat_true, Nat.pow_succ]
    omega

/-- Ones become zeros with a one before them. -/
theorem value_overflow (k : Nat) :
    value (true :: .replicate k false) = value (.replicate k true) + 1 := by
  rw [value_cons, value_replicate_false, value_replicate_true, List.length_replicate]
  simp

/-- A zero before ones becomes a one before zeros. -/
theorem value_carry (u : List Bool) (k : Nat) :
    value (u ++ true :: .replicate k false) = value (u ++ false :: .replicate k true) + 1 := by
  have hzero : value (false :: .replicate k true) = value (.replicate k true) := by
    rw [value_cons, Bool.toNat_false, Nat.mul_zero, Nat.add_zero]
  rw [value_append, value_append, value_overflow, hzero, List.length_cons, List.length_cons,
    List.length_replicate, List.length_replicate]
  omega

/-! ### To the end of a word and back -/

/-- What counting up and counting down have in common. From the blank on the left the head goes to
the end of the word and comes back over the bits `b` there, each of which it flips. It halts on the
first cell that holds something else: the other bit, which it flips too, or the blank on the left,
which becomes `mark`. -/
structure Counts (p : Program) (b : Bool) (mark : Symbol) : Prop where
  depart : p.card? 1 = some (bitCard ⟨'_', 1, 2⟩ reject reject)
  ahead : p.card? 2 = some (bitCard ⟨'_', -1, 3⟩ ⟨'0', 1, 2⟩ ⟨'1', 1, 2⟩)
  back : ∃ card, p.card? 3 = some card ∧ card.get? (bit b) = some ⟨bit (!b), -1, 3⟩ ∧
    card.get? (bit (!b)) = some ⟨bit b, 0, 0⟩ ∧ card.get? '_' = some ⟨mark, 0, 0⟩

theorem counts_increment : Counts increment true '1' := ⟨rfl, rfl, _, rfl, rfl, rfl, rfl⟩

theorem counts_decrement : Counts decrement false 'E' := ⟨rfl, rfl, _, rfl, rfl, rfl, rfl⟩

variable {p : Program} {b : Bool} {mark : Symbol}

/-- **From the blank on the left to the end of a word**, and one cell back from the blank there. -/
theorem Counts.walk_to_end (h : Counts p b mark) (rest : List Symbol) (hw : w.length + 1 < 2 ^ 63) :
    p.Walk 0 (w.length + 2) (.on 1 (wordTape w rest) 0) (.on 3 (wordTape w rest) w.length) := by
  have hstart : p.transition (.on 1 (wordTape w rest) 0) = .ok (.on 2 (wordTape w rest) 1) :=
    transition_on [] (bits w ++ '_' :: rest) h.depart get?_bitCard_blank (by decide) (by decide)
  have hbits : ∀ x ∈ bits w, (bitCard ⟨'_', -1, 3⟩ ⟨'0', 1, 2⟩ ⟨'1', 1, 2⟩).get? x =
      some ⟨x, 1, 2⟩ := by
    intro x hx
    obtain ⟨b, -, rfl⟩ := List.mem_map.mp hx
    cases b
    · exact get?_bitCard_zero
    · exact get?_bitCard_one
  have hne₁ : (1 : StateId) ≠ 0 := by decide
  have hne₂ : (2 : StateId) ≠ 0 := by decide
  have hend := Walk.search (j := w.length) hne₂ h.ahead ['_'] rest hbits get?_bitCard_blank
    (by rw [length_bits, List.length_singleton]; omega)
    (by rw [length_bits, List.length_singleton]; show (w.length : Int) = _ + -1; omega)
  rw [length_bits] at hend
  exact .step hne₁ hstart hend

/-- From the last bit back over the bits `b`, to the other bit or the blank. -/
theorem Counts.walk_back (h : Counts p b mark) {y z : Symbol}
    (hy : y = bit (!b) ∧ z = bit b ∨ y = '_' ∧ z = mark) (left right : List Symbol)
    (hl : left.length + k < 2 ^ 63) :
    p.Walk 0 (k + 1) (.on 3 (left ++ y :: (.replicate k (bit b) ++ right)) (left.length + k))
      (.on 0 (left ++ z :: (.replicate k (bit (!b)) ++ right)) left.length) := by
  obtain ⟨card, hcard, hflip, hother, hblank⟩ := h.back
  have hbits : ∀ x ∈ List.replicate k (bit b), card.get? x = some ⟨bit (!b), -1, 3⟩ := by
    intro x hx
    rwa [List.eq_of_mem_replicate hx]
  have hcell : card.get? y = some ⟨z, 0, 0⟩ := by
    rcases hy with ⟨rfl, rfl⟩ | ⟨rfl, rfl⟩
    · exact hother
    · exact hblank
  have hne₃ : (3 : StateId) ≠ 0 := by decide
  have hback := Walk.sweepLeft (y := y) (f := fun _ => bit (!b)) hne₃ hcard left right hbits
    (by rwa [List.length_replicate])
  rw [List.length_replicate, List.map_replicate] at hback
  have hlast := transition_on (j := left.length) left (.replicate k (bit (!b)) ++ right) hcard hcell
    (by omega) (by simp)
  exact hback.append (.one hne₃ hlast)

theorem bits_replicate (k : Nat) (b : Bool) : bits (.replicate k b) = .replicate k (bit b) :=
  List.map_replicate

theorem length_append_cons_replicate (u : List Bool) (b c : Bool) (k : Nat) :
    (u ++ b :: List.replicate k c).length = u.length + 1 + k := by
  rw [List.length_append, List.length_cons, List.length_replicate, Nat.add_right_comm, Nat.add_assoc]

/-- **The last of the other bits is flipped**, and the bits `b` after it. -/
theorem Counts.walk_carry (h : Counts p b mark) (u : List Bool) (k : Nat) (rest : List Symbol)
    (hw : u.length + k + 2 < 2 ^ 63) :
    p.Walk 0 (u.length + 1 + k + k + 3)
      (.on 1 (wordTape (u ++ (!b) :: .replicate k b) rest) 0)
      (.on 0 (wordTape (u ++ b :: .replicate k (!b)) rest) (u.length + 1)) := by
  have hlength := length_append_cons_replicate u (!b) b k
  have hend := h.walk_to_end (w := u ++ (!b) :: .replicate k b) rest (by omega)
  have hback := h.walk_back (k := k) (.inl ⟨rfl, rfl⟩) ('_' :: bits u) ('_' :: rest)
    (by rw [List.length_cons, length_bits]; omega)
  have htape : ∀ x y, wordTape (u ++ x :: .replicate k y) rest =
      ('_' :: bits u) ++ bit x :: (.replicate k (bit y) ++ '_' :: rest) := by
    intro x y
    simp [wordTape, bits]
  rw [hlength, htape] at hend
  rw [List.length_cons, length_bits] at hback
  rw [htape, htape]
  have hall := hend.append hback
  have hcount : u.length + 1 + k + 2 + (k + 1) = u.length + 1 + k + k + 3 := by omega
  rwa [hcount] at hall

/-- **If all bits are `b`, all are flipped**, and the blank before them becomes the mark. -/
theorem Counts.walk_overflow (h : Counts p b mark) (k : Nat) (rest : List Symbol)
    (hw : k + 1 < 2 ^ 63) :
    p.Walk 0 (k + k + 3) (.on 1 (wordTape (.replicate k b) rest) 0)
      (.on 0 (mark :: (bits (.replicate k (!b)) ++ '_' :: rest)) 0) := by
  have hend := h.walk_to_end (w := .replicate k b) rest (by rwa [List.length_replicate])
  have hback := h.walk_back (k := k) (.inr ⟨rfl, rfl⟩) [] ('_' :: rest)
    (by rw [List.length_nil]; omega)
  rw [List.length_replicate, wordTape, bits_replicate] at hend
  rw [List.length_nil, Nat.zero_add] at hback
  rw [wordTape, bits_replicate, bits_replicate]
  have hall := hend.append hback
  have hcount : k + 2 + (k + 1) = k + k + 3 := by omega
  rwa [hcount] at hall

/-! ### The increment -/

/-- **The increment of a word**, with what it makes of the cells of the word and of the blank before
them. -/
theorem exists_walk_increment (w : List Bool) (rest : List Symbol) (hw : w.length + 1 < 2 ^ 63) :
    ∃ cells head, cells.length = w.length + 1 ∧ number? cells = some (value w + 1) ∧
      (cells.head? = some '_' ↔ false ∈ w) ∧
      increment.Walk 0 (w.length + trailing true w + 3) (.on 1 (wordTape w rest) 0)
        (.on 0 (cells ++ '_' :: rest) head) := by
  generalize hk : trailing true w = k
  rcases eq_replicate_or_append true w with h | ⟨u, h⟩
  · rw [hk] at h
    subst h
    rw [List.length_replicate] at hw ⊢
    refine ⟨bits (true :: .replicate k false), 0, ?_, ?_, ?_,
      counts_increment.walk_overflow k rest hw⟩
    · rw [length_bits, List.length_cons, List.length_replicate]
    · rw [number?_bits, value_overflow]
    · simp [bits, bit]
  · rw [hk, Bool.not_true] at h
    subst h
    have hlength := length_append_cons_replicate u false true k
    rw [hlength] at hw ⊢
    refine ⟨'_' :: bits (u ++ true :: .replicate k false), u.length + 1, ?_, ?_, ?_, ?_⟩
    · rw [List.length_cons, length_bits, length_append_cons_replicate]
    · rw [number?_blank, number?_bits, value_carry]
    · simp
    · exact counts_increment.walk_carry u k rest (by omega)

/-- **The built-in increment adds one to every word of bits** between two blanks. It takes one
transition for each bit, one for each of the ones at its end, and three more. With a budget of
at least that many it halts after exactly that many. The word and the blank before it then hold the
next number, the blank is still there unless all bits were ones, and the cells after the word are
as they were. Any smaller budget is used up.

The head must have a position for the blank after the word. A tape in memory always has fewer cells
than there are positions. -/
theorem run_increment (w : List Bool) (rest : List Symbol) (hw : w.length + 1 < 2 ^ 63) :
    builtIn.program "Binary increment" = .ok increment ∧
    (∀ budget : UInt64, w.length + trailing true w + 3 ≤ budget.toNat →
      let r := increment.run (wordTape w rest) 0 increment.entry increment.halt budget
      r.termination = .halted ∧ r.steps.toNat = w.length + trailing true w + 3 ∧
      number? (r.tape.take (w.length + 1)) = some (value w + 1) ∧
      (r.tape.head? = some '_' ↔ false ∈ w) ∧
      r.tape.drop (w.length + 1) = (wordTape w rest).drop (w.length + 1)) ∧
    ∀ budget : UInt64, budget.toNat < w.length + trailing true w + 3 →
      (increment.run (wordTape w rest) 0 increment.entry increment.halt budget).termination =
        .budgetExhausted := by
  obtain ⟨cells, head, hcells, hnumber, hblank, hwalk⟩ := exists_walk_increment w rest hw
  refine ⟨rfl, fun budget hb => ?_, fun budget hb => hwalk.run_exhausted hb⟩
  intro r
  have hr : r = ⟨cells ++ '_' :: rest, Head.ofIndex head, 0,
      .ofNat (w.length + trailing true w + 3), .halted⟩ := hwalk.run_eq rfl hb
  have hlt : w.length + trailing true w + 3 < UInt64.size :=
    Nat.lt_of_le_of_lt hb budget.toNat_lt
  rw [hr]
  refine ⟨rfl, UInt64.toNat_ofNat_of_lt' hlt, ?_, ?_, ?_⟩
  · rw [List.take_append_of_le_length (Nat.le_of_eq hcells.symm), ← hcells, List.take_length]
    exact hnumber
  · obtain ⟨x, l, rfl⟩ := List.exists_cons_of_length_eq_add_one hcells
    exact hblank
  · show (cells ++ '_' :: rest).drop (w.length + 1) = ('_' :: bits w ++ '_' :: rest).drop _
    rw [← hcells, List.drop_left, hcells, ← length_bits w, ← List.length_cons, List.drop_left]

/-- `1011`, with two ones at its end, before a symbol that the program does not know. -/
theorem run_increment_eleven :
    4 + 1 < 2 ^ 63 ∧
      (increment.run "_1011_x".toList 0 increment.entry increment.halt 9).termination = .halted ∧
      number? ((increment.run "_1011_x".toList 0 increment.entry increment.halt 9).tape.take 5) =
        some 12 ∧
      (increment.run "_1011_x".toList 0 increment.entry increment.halt 8).termination =
        .budgetExhausted := by
  have hw : [true, false, true, true].length + 1 < 2 ^ 63 := by decide
  obtain ⟨-, hhalted, hexhausted⟩ := run_increment [true, false, true, true] ['x'] hw
  obtain ⟨ht, -, hnumber, -⟩ := hhalted 9 (by decide)
  exact ⟨hw, ht, hnumber, hexhausted 8 (by decide)⟩

/-! ### The decrement -/

theorem eq_replicate_of_not_mem (h : (!b) ∉ w) : w = .replicate (trailing b w) b := by
  rcases eq_replicate_or_append b w with hw | ⟨u, hw⟩
  · exact hw
  · rw [hw] at h
    exact absurd (List.mem_append_right u List.mem_cons_self) h

theorem exists_eq_append_of_mem (h : (!b) ∈ w) :
    ∃ u, w = u ++ (!b) :: .replicate (trailing b w) b := by
  rcases eq_replicate_or_append b w with hw | hw
  · rw [hw] at h
    exact absurd (List.eq_of_mem_replicate h) (Bool.not_ne_self b)
  · exact hw

/-- **The decrement of a word with a one** is the word of the number before. -/
theorem exists_walk_decrement (hone : true ∈ w) (rest : List Symbol) (hw : w.length + 1 < 2 ^ 63) :
    ∃ v head, v.length = w.length ∧ value v + 1 = value w ∧
      decrement.Walk 0 (w.length + trailing false w + 3) (.on 1 (wordTape w rest) 0)
        (.on 0 (wordTape v rest) head) := by
  obtain ⟨u, hu⟩ := exists_eq_append_of_mem (b := false) hone
  generalize trailing false w = k at hu ⊢
  rw [Bool.not_false] at hu
  subst hu
  rw [length_append_cons_replicate] at hw ⊢
  refine ⟨u ++ false :: .replicate k true, u.length + 1, ?_, ?_, ?_⟩
  · exact length_append_cons_replicate u false true k
  · exact (value_carry u k).symm
  · exact counts_decrement.walk_carry u k rest (by omega)

/-- **The decrement of zero** leaves ones and the mark. -/
theorem walk_decrement_zero (hnone : true ∉ w) (rest : List Symbol) (hw : w.length + 1 < 2 ^ 63) :
    decrement.Walk 0 (w.length + trailing false w + 3) (.on 1 (wordTape w rest) 0)
      (.on 0 ('E' :: (.replicate w.length '1' ++ '_' :: rest)) 0) := by
  have hzeros := eq_replicate_of_not_mem (b := false) hnone
  generalize trailing false w = k at hzeros ⊢
  subst hzeros
  rw [List.length_replicate] at hw ⊢
  have hwalk := counts_decrement.walk_overflow k rest hw
  rwa [bits_replicate] at hwalk

/-- **What one way of counting changes within a word, the other changes back.** -/
theorem Counts.exists_walk_undo {q : Program} {mark' : Symbol} (h : Counts p b mark)
    (h' : Counts q (!b) mark') (hmem : (!b) ∈ w) (rest : List Symbol) (hw : w.length + 1 < 2 ^ 63) :
    ∃ v i j,
      p.Walk 0 (w.length + trailing b w + 3) (.on 1 (wordTape w rest) 0)
        (.on 0 (wordTape v rest) i) ∧
      q.Walk 0 (w.length + trailing b w + 3) (.on 1 (wordTape v rest) 0)
        (.on 0 (wordTape w rest) j) := by
  obtain ⟨u, hu⟩ := exists_eq_append_of_mem hmem
  generalize trailing b w = k at hu ⊢
  subst hu
  rw [length_append_cons_replicate] at hw ⊢
  have hthere := h.walk_carry u k rest (by omega)
  have hback := h'.walk_carry u k rest (by omega)
  rw [Bool.not_not] at hback
  exact ⟨_, _, _, hthere, hback⟩

/-- **The built-in decrement takes one from every word of bits with a one in it**, between two
blanks, and marks every other. It takes one transition for each bit, one for each of the zeros at
the end of the word, and three more. With a budget of at least that many it halts after exactly that
many. If there is a one in the word, the cells of the word then hold the number before it, and the
blanks and the cells after the word are as they were. If there is none, the mark is in the cell of
the left blank and under the head, the cells of the word hold ones, and the cells after it are as
they were.

So the decrement takes back the increment of every word with a zero in it, from the tape that the
increment left. The two take equally many transitions.

As for the increment, the head must have a position for the blank after the word. -/
theorem run_decrement (w : List Bool) (rest : List Symbol) (hw : w.length + 1 < 2 ^ 63) :
    builtIn.program "Binary decrement" = .ok decrement ∧
    (∀ budget : UInt64, w.length + trailing false w + 3 ≤ budget.toNat →
      let r := decrement.run (wordTape w rest) 0 decrement.entry decrement.halt budget
      r.termination = .halted ∧ r.steps.toNat = w.length + trailing false w + 3 ∧
      (true ∈ w → ∃ v, v.length = w.length ∧ value v + 1 = value w ∧ r.tape = wordTape v rest) ∧
      (true ∉ w → r.tape = 'E' :: (.replicate w.length '1' ++ '_' :: rest) ∧ r.head = 0)) ∧
    (false ∈ w → ∀ budget budget' : UInt64, w.length + trailing true w + 3 ≤ budget.toNat →
      w.length + trailing true w + 3 ≤ budget'.toNat →
      let r := increment.run (wordTape w rest) 0 increment.entry increment.halt budget
      let r' := decrement.run r.tape 0 decrement.entry decrement.halt budget'
      r'.termination = .halted ∧ r'.tape = wordTape w rest) := by
  refine ⟨rfl, fun budget hb => ?_, fun hzero budget budget' hb hb' => ?_⟩
  · intro r
    by_cases hone : true ∈ w
    · obtain ⟨v, head, hv, hvalue, hwalk⟩ := exists_walk_decrement hone rest hw
      obtain ⟨ht, hsteps, -, htape⟩ := hwalk.run_halts hb
      exact ⟨ht, hsteps, fun _ => ⟨v, hv, hvalue, htape⟩, fun hnone => absurd hone hnone⟩
    · obtain ⟨ht, hsteps, hhead, htape⟩ := (walk_decrement_zero hone rest hw).run_halts hb
      exact ⟨ht, hsteps, fun h => absurd h hone, fun _ => ⟨htape, hhead⟩⟩
  · intro r r'
    obtain ⟨v, i, j, hthere, hback⟩ :=
      counts_increment.exists_walk_undo counts_decrement hzero rest hw
    obtain ⟨-, -, -, hv⟩ := hthere.run_halts hb
    have hr : r' = decrement.run (wordTape v rest) 0 decrement.entry decrement.halt budget' :=
      congrArg (decrement.run · 0 decrement.entry decrement.halt budget') hv
    obtain ⟨ht, -, -, htape⟩ := hback.run_halts hb'
    rw [hr]
    exact ⟨ht, htape⟩

/-- `1100`, with two zeros at its end, before a symbol that the program does not know, and `00`,
which is marked. After an increment of `1011`, which also ends in `1100`, the decrement gives `1011`
back. -/
theorem run_decrement_twelve :
    4 + 1 < 2 ^ 63 ∧
      (∃ v, v.length = 4 ∧ value v + 1 = 12 ∧
        (decrement.run "_1100_x".toList 0 decrement.entry decrement.halt 9).tape =
          wordTape v ['x']) ∧
      (decrement.run "_00_x".toList 0 decrement.entry decrement.halt 7).tape = "E11_x".toList ∧
      (decrement.run (increment.run "_1011_x".toList 0 increment.entry increment.halt 9).tape 0
        decrement.entry decrement.halt 9).tape = "_1011_x".toList := by
  have htwelve := run_decrement [true, true, false, false] ['x'] (by decide)
  have hzero := run_decrement [false, false] ['x'] (by decide)
  have heleven := run_decrement [true, false, true, true] ['x'] (by decide)
  obtain ⟨-, -, hbefore, -⟩ := htwelve.2.1 9 (by decide)
  obtain ⟨-, -, -, hmarked⟩ := hzero.2.1 7 (by decide)
  obtain ⟨-, hback⟩ := heleven.2.2 (by decide) 9 9 (by decide) (by decide)
  exact ⟨by decide, hbefore (by decide), (hmarked (by decide)).1, hback⟩

end CardMachine.Catalog
