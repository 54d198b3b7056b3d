import CardMachine.Proofs.Machine.History
import CardMachine.Proofs.Machine.Safety
import Mathlib.Data.Fintype.BigOperators
import Mathlib.Data.Fintype.Pigeonhole

/-! # Runs that never end

A configuration that takes a transition has a card for its state and its head on the tape, and its
cells hold symbols of the first tape or symbols that some action writes. So it is one of finitely
many, and a `Site` says which: the place of a card, a cell, and a symbol for each cell. A run with
more transitions than there are sites is in one configuration twice. One transition follows from the
other, so what comes after the second time is what came after the first (`configAt_add_of_eq`), and
the run goes round for ever (`lasts_of_eq`). -/

namespace CardMachine

/-! ### Runs that use up their budget -/

namespace Program

variable {p : Program} {c d : Config} {halt : StateId} {tape : List Symbol} {i j n : Nat}

/-- There are `n` transitions from `c`, and no configuration up to the last is halted. -/
def Lasts (p : Program) (halt : StateId) (c : Config) (n : Nat) : Prop :=
  ∀ k ≤ n, ∃ d, p.configAt c k = .ok d ∧ d.state ≠ halt

theorem configAt_one (p : Program) (c : Config) : p.configAt c 1 = p.transition c := rfl

/-- The first transition is the first of the sequence. -/
theorem configAt_succ_of_transition (h : p.transition c = .ok d) :
    ∀ k, p.configAt c (k + 1) = p.configAt d k
  | 0 => h
  | k + 1 => by rw [configAt, configAt_succ_of_transition h k, configAt]

theorem lasts_succ_iff (h : p.transition c = .ok d) :
    p.Lasts halt c (n + 1) ↔ c.state ≠ halt ∧ p.Lasts halt d n := by
  constructor
  · intro hl
    obtain ⟨c', hc', hstate⟩ := hl 0 (Nat.zero_le _)
    cases hc'
    refine ⟨hstate, fun k hk => ?_⟩
    rw [← configAt_succ_of_transition h]
    exact hl (k + 1) (Nat.succ_le_succ hk)
  · rintro ⟨hstate, hl⟩ k hk
    cases k with
    | zero => exact ⟨c, rfl, hstate⟩
    | succ k =>
      rw [configAt_succ_of_transition h]
      exact hl k (Nat.le_of_succ_le_succ hk)

end Program

namespace Machine

variable {m m' : Machine} {l : List Snapshot} {t : Termination} {n : Nat}

theorem getD_termination_eq_iff :
    m.termination.getD .budgetExhausted = .budgetExhausted ↔ m.termination = none := by
  unfold termination
  split
  · simp
  · cases m.failure <;> simp

/-- **A run uses up its budget** if there are as many transitions, none of which halts. -/
theorem Runs.exhausted_iff (hr : Runs n m l m' t) (hf : m.failure = none) :
    t = .budgetExhausted ↔ m.program.Lasts m.halt m.config n := by
  rw [hr.termination_eq, getD_termination_eq_iff]
  induction hr with
  | spent m =>
    rw [termination_eq_none_iff]
    constructor
    · rintro ⟨hh, -⟩ k hk
      obtain rfl := Nat.le_zero.mp hk
      exact ⟨m.config, rfl, hh⟩
    · intro hl
      obtain ⟨c, hc, hh⟩ := hl 0 (Nat.le_refl 0)
      cases hc
      exact ⟨hh, hf⟩
  | @stop n m m' t h =>
    rw [termination_of_stopped h]
    refine iff_of_false nofun fun hl => ?_
    rcases transition_of_stopped h with ⟨ht, -⟩ | ⟨-, e, he, -, -⟩
    · obtain ⟨c, hc, hh⟩ := hl 0 (Nat.zero_le _)
      cases hc
      exact hh (halted_of_termination ht hf).1
    · obtain ⟨c, hc, -⟩ := hl 1 (Nat.succ_pos _)
      rw [Program.configAt_one, he] at hc
      cases hc
  | move h _ ih =>
    obtain ⟨ht, c, hc, rfl⟩ := transition_of_moved h
    rw [Program.lasts_succ_iff hc, ih hf]
    exact (and_iff_right (termination_eq_none_iff.mp ht).1).symm

end Machine

namespace Program

variable {p : Program} {c d : Config} {halt : StateId} {tape : List Symbol} {i j n : Nat}

/-! ### Where a transition is taken -/

/-- The symbols on a tape and those that some action writes. -/
def symbolsOn (p : Program) (tape : List Symbol) : Finset Symbol :=
  (tape ++ p.cards.flatMap fun e => e.2.entries.map fun a => a.2.write).toFinset

theorem mem_symbolsOn_iff {x : Symbol} : x ∈ p.symbolsOn tape ↔
    x ∈ tape ∨ ∃ e ∈ p.cards, ∃ a ∈ e.2.entries, a.2.write = x := by
  simp only [symbolsOn, List.mem_toFinset, List.mem_append, List.mem_flatMap, List.mem_map]

/-- The tape has its length, and the symbols of the first tape or of some action. -/
structure Keeps (p : Program) (tape : List Symbol) (c : Config) : Prop where
  size : c.tape.size = tape.length
  symbols : ∀ x ∈ c.tape, x ∈ p.symbolsOn tape

theorem keeps_of_transition (hc : p.Keeps tape c) (h : p.transition c = .ok d) :
    p.Keeps tape d where
  size := (size_of_transition h).trans hc.size
  symbols := by
    obtain ⟨cell, x, a, ⟨⟨card, hcard, ha⟩, -, -⟩, rfl⟩ := due_of_transition_eq_ok h
    intro y hy
    rcases Action.mem_or_eq_of_mem_perform hy with hy | rfl
    · exact hc.symbols y hy
    · exact mem_symbolsOn_iff.mpr (.inr ⟨_, card?_eq_some_iff.mp hcard, _,
        KeyMap.get?_eq_some_iff.mp ha, rfl⟩)

theorem keeps_configAt (hc : p.Keeps tape c) :
    ∀ {k : Nat} {d : Config}, p.configAt c k = .ok d → p.Keeps tape d
  | 0, _, rfl => hc
  | k + 1, d, h => by
    obtain ⟨b, hb, hd⟩ := configAt_succ_eq_ok_iff.mp h
    exact keeps_of_transition (keeps_configAt hc hb) hd

/-- Where a transition can be taken: the place of a card among the cards, a cell, and the symbols
of the cells. -/
abbrev Site (p : Program) (tape : List Symbol) : Type :=
  Fin p.cards.length × Fin tape.length × (Fin tape.length → p.symbolsOn tape)

/-- The configuration of a site. -/
def Site.config (s : p.Site tape) : Config where
  tape := Array.ofFn fun i => (s.2.2 i).1
  head := Head.ofIndex s.2.1
  state := (p.cards.get s.1).1

theorem card_site (p : Program) (tape : List Symbol) : Fintype.card (p.Site tape) =
    p.cards.length * tape.length * (p.symbolsOn tape).card ^ tape.length := by
  rw [Fintype.card_prod, Fintype.card_prod, Fintype.card_fun, Fintype.card_fin, Fintype.card_fin,
    Fintype.card_coe, Nat.mul_assoc]

/-- **A configuration that takes a transition is that of a site.** -/
theorem exists_site (hc : p.Keeps tape c) (h : p.transition c = .ok d) :
    ∃ s : p.Site tape, s.config = c := by
  obtain ⟨cell, x, a, ⟨⟨card, hcard, -⟩, hindex, -⟩, -⟩ := due_of_transition_eq_ok h
  obtain ⟨k, hk⟩ := List.mem_iff_get.mp (card?_eq_some_iff.mp hcard)
  have hcell : cell < tape.length := hc.size ▸ Head.lt_of_index? hindex
  have hbound : ∀ i : Fin tape.length, i < c.tape.size := fun i => hc.size.symm ▸ i.2
  have hsymbol : ∀ i : Fin tape.length, getElem c.tape i.1 (hbound i) ∈ p.symbolsOn tape :=
    fun i => hc.symbols _ (Array.getElem_mem _)
  refine ⟨(k, ⟨cell, hcell⟩, fun i => ⟨_, hsymbol i⟩), ?_⟩
  have htape : (Array.ofFn fun i : Fin tape.length => getElem c.tape i.1 (hbound i)) = c.tape :=
    Array.ext (by rw [Array.size_ofFn, hc.size]) fun i _ _ => Array.getElem_ofFn _
  show Config.mk _ _ _ = c
  rw [htape, hk, Head.ofIndex_of_index? hindex]

/-! ### Going round -/

/-- What comes after a configuration is the same whenever it comes. -/
theorem configAt_add_of_eq (h : p.configAt c i = p.configAt c j) :
    ∀ k, p.configAt c (i + k) = p.configAt c (j + k)
  | 0 => h
  | k + 1 => by
    rw [← Nat.add_assoc, ← Nat.add_assoc, configAt, configAt, configAt_add_of_eq h k]

/-- **A run that comes twice to one configuration never ends.** -/
theorem lasts_of_eq (hij : i < j) (h : p.configAt c i = p.configAt c j) (hl : p.Lasts halt c j)
    (n : Nat) : p.Lasts halt c n := by
  suffices hall : ∀ k, ∃ d, p.configAt c k = .ok d ∧ d.state ≠ halt from fun k _ => hall k
  intro k
  induction k using Nat.strongRecOn with
  | ind k ih =>
    by_cases hk : k ≤ j
    · exact hl k hk
    · -- one round earlier
      obtain ⟨r, rfl⟩ := Nat.exists_eq_add_of_le (Nat.le_of_not_le hk)
      rw [← configAt_add_of_eq h r]
      exact ih (i + r) (by omega)

/-- **A run with more transitions than there are sites never ends.** -/
theorem lasts_of_card_lt (hc : p.Keeps tape c) (hn : Fintype.card (p.Site tape) < n)
    (hl : p.Lasts halt c n) (b : Nat) : p.Lasts halt c b := by
  have hsite : ∀ k : Fin n, ∃ s : p.Site tape, p.configAt c k = .ok s.config := by
    intro k
    obtain ⟨d, hd, -⟩ := hl k (Nat.le_of_lt k.2)
    obtain ⟨d', hd', -⟩ := hl (k + 1) k.2
    rw [configAt, hd] at hd'
    obtain ⟨s, rfl⟩ := exists_site (keeps_configAt hc hd) hd'
    exact ⟨s, hd⟩
  choose site hconfig using hsite
  obtain ⟨i, j, hne, he⟩ := Fintype.exists_ne_map_eq_of_card_lt site (by rwa [Fintype.card_fin])
  have hsame : p.configAt c i = p.configAt c j := by rw [hconfig, hconfig, he]
  have hupto : ∀ k : Fin n, p.Lasts halt c k := fun k r hr => hl r (hr.trans (Nat.le_of_lt k.2))
  rcases Nat.lt_or_gt_of_ne (Fin.val_ne_of_ne hne) with hij | hij
  · exact lasts_of_eq hij hsame (hupto j) b
  · exact lasts_of_eq hij hsame.symm (hupto i) b

/-- **Looping is decided by a budget.** A program with `K` cards on a tape of length `L`, on which
`S` symbols are found or written, has `K * L * S ^ L` sites. If a larger budget is used up, so is
every other. -/
theorem runWith_budgetExhausted_of_lt {σ : Type} (p : Program) (tape : List Symbol) (head : Int64)
    (entry halt : StateId) (see : σ → Snapshot → σ) (s : σ) {m : UInt64}
    (hm : p.cards.length * tape.length * (p.symbolsOn tape).card ^ tape.length < m.toNat)
    (h : (p.runWith tape head entry halt m see s).1.termination = .budgetExhausted)
    (budget : UInt64) :
    (p.runWith tape head entry halt budget see s).1.termination = .budgetExhausted := by
  obtain ⟨l, m₁, t₁, hr₁, hrun₁, -⟩ := p.exists_runs tape head entry halt m
  obtain ⟨l₂, m₂, t₂, hr₂, hrun₂, -⟩ := p.exists_runs tape head entry halt budget
  rw [hrun₁] at h
  rw [hrun₂]
  have hkeeps : p.Keeps tape ⟨tape.toArray, head, entry⟩ :=
    ⟨List.size_toArray, fun x hx => mem_symbolsOn_iff.mpr (.inl (List.mem_toArray.mp hx))⟩
  have hl : p.Lasts halt ⟨tape.toArray, head, entry⟩ m.toNat := (hr₁.exhausted_iff rfl).mp h
  exact (hr₂.exhausted_iff rfl).mpr (lasts_of_card_lt hkeeps (by rwa [card_site]) hl _)

/-- A program that goes to and fro between two cells and writes the other symbol to each. -/
def swinging : Program where
  name := "Swinging"
  alphabet := KeySet.ofList ['a', 'b']
  markers := ∅
  entry := 1
  halt := 0
  states := KeyMap.ofList [(0, .halting),
    (1, .executable (KeyMap.ofList [('a', ⟨'b', 1, 2⟩), ('b', ⟨'a', 1, 2⟩)])),
    (2, .executable (KeyMap.ofList [('a', ⟨'b', -1, 1⟩), ('b', ⟨'a', -1, 1⟩)]))]
  input := none

theorem runWith_budgetExhausted_swinging :
    2 * 2 * (swinging.symbolsOn ['a', 'b']).card ^ 2 < (17 : UInt64).toNat ∧
      (swinging.run ['a', 'b'] 0 1 0 17).termination = .budgetExhausted ∧
      ∀ budget, (swinging.run ['a', 'b'] 0 1 0 budget).termination = .budgetExhausted :=
  have hlt : 2 * 2 * (swinging.symbolsOn ['a', 'b']).card ^ 2 < (17 : UInt64).toNat := by decide
  have hrun : (swinging.run ['a', 'b'] 0 1 0 17).termination = .budgetExhausted := by decide
  ⟨hlt, hrun, fun budget =>
    runWith_budgetExhausted_of_lt swinging ['a', 'b'] 0 1 0 (fun _ _ => ()) () hlt hrun budget⟩

end Program

end CardMachine
