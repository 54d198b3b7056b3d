import CardMachine.Proofs.Check.Search

/-! # Well-formed programs

What a program has to be is `Program.WellFormed`, said without the checks. `Program.Violates` says
which of these conditions a problem reports and what it lists: all that is at fault, in increasing
order, and nothing else (`Enumerates`). A problem is on the list of problems if and only if the
program violates its condition (`mem_problems_iff_violates`), so a program is well-formed if and
only if there are no problems.

A list of problems could still name one twice. But the problems come in strictly increasing order
of their ranks (`pairwise_rank_problems`), and a problem has the rank of what it is about: the
alphabet, a state, the card of a state in one of three respects, an action, or all states. So there
is at most one about each of them. -/

namespace CardMachine

/-! ### Lists of keys -/

/-- The list holds exactly what has the property, in strictly increasing order of the keys. -/
structure Enumerates {κ : Type} [Key κ] (l : List κ) (P : κ → Prop) : Prop where
  increasing : l.Pairwise fun a b => Key.rank a < Key.rank b
  mem_iff : ∀ a, a ∈ l ↔ P a

namespace Enumerates

variable {κ : Type} [Key κ] {l l' : List κ} {P Q : κ → Prop}

/-- There is only one such list. -/
theorem unique (h : Enumerates l P) (h' : Enumerates l' P) : l = l' := by
  have hnodup : ∀ {l : List κ}, (l.Pairwise fun a b => Key.rank a < Key.rank b) → l.Nodup :=
    fun hl => hl.imp fun hlt he => Nat.ne_of_lt hlt (congrArg Key.rank he)
  have hperm : l.Perm l' := (List.perm_ext_iff_of_nodup (hnodup h.increasing)
    (hnodup h'.increasing)).mpr fun a => (h.mem_iff a).trans (h'.mem_iff a).symm
  exact hperm.eq_of_pairwise (fun _ _ _ _ hlt hgt => absurd hlt (Nat.lt_asymm hgt)) h.increasing
    h'.increasing

theorem congr (h : Enumerates l P) (hPQ : ∀ a, P a ↔ Q a) : Enumerates l Q :=
  ⟨h.increasing, fun a => (h.mem_iff a).trans (hPQ a)⟩

theorem filter (h : Enumerates l P) (q : κ → Bool) :
    Enumerates (l.filter q) fun a => P a ∧ q a = true :=
  ⟨h.increasing.filter q, fun a => by rw [List.mem_filter, h.mem_iff]⟩

theorem ne_nil (h : Enumerates l P) {a : κ} (ha : P a) : l ≠ [] :=
  List.ne_nil_of_mem ((h.mem_iff a).mpr ha)

end Enumerates

theorem KeyMap.enumerates_keys {κ α : Type} [Key κ] (m : KeyMap κ α) :
    Enumerates m.keys fun k => m.contains k = true :=
  ⟨List.pairwise_map.mpr m.increasing, fun _ => contains_iff_mem_keys.symm⟩

namespace Program

variable {p : Program} {x y : Problem} {state : StateId} {card : Card} {l : List Symbol}

/-! ### The conditions -/

/-- What a program has to be. Only the cards of states other than the halting state are looked
at. -/
structure WellFormed (p : Program) : Prop where
  alphabet : ∃ c, p.alphabet.contains c = true
  entry : p.entry = p.halt ∨ ∃ card, p.card? p.entry = some card
  /-- The halting state has no card. -/
  halting : ∀ card, p.states.get? p.halt ≠ some (.executable card)
  /-- No other state has a placeholder. -/
  placeholder : ∀ state, p.states.get? state = some .halting → state = p.halt
  /-- A card reads the alphabet and nothing else. -/
  reads : ∀ state card, state ≠ p.halt → p.card? state = some card →
    ∀ c, card.contains c = true ↔ p.alphabet.contains c = true
  /-- It writes symbols of the alphabet and markers. -/
  writes : ∀ state card, state ≠ p.halt → p.card? state = some card →
    ∀ c a, card.get? c = some a →
      p.alphabet.contains a.write = true ∨ p.markers.contains a.write = true
  /-- It goes to the halting state and to states with a card. -/
  next : ∀ state card, state ≠ p.halt → p.card? state = some card →
    ∀ c a, card.get? c = some a → a.next = p.halt ∨ ∃ card, p.card? a.next = some card
  reachable : ∀ state card, state ≠ p.halt → p.card? state = some card → p.Reaches state

/-- The program violates the condition that the problem reports, and the problem lists all that is
at fault. -/
def Violates (p : Program) : Problem → Prop
  | .emptyAlphabet => ∀ c, p.alphabet.contains c = false
  | .invalidEntry state => state = p.entry ∧ state ≠ p.halt ∧ p.card? state = none
  | .haltingStateHasCard state =>
    state = p.halt ∧ ∃ card, p.states.get? state = some (.executable card)
  | .strayHaltingState state => state ≠ p.halt ∧ p.states.get? state = some .halting
  | .missingSymbols state l => l ≠ [] ∧ state ≠ p.halt ∧ ∃ card, p.card? state = some card ∧
    Enumerates l fun c => p.alphabet.contains c = true ∧ card.contains c = false
  | .undeclaredSymbols state l => l ≠ [] ∧ state ≠ p.halt ∧ ∃ card, p.card? state = some card ∧
    Enumerates l fun c => card.contains c = true ∧ p.alphabet.contains c = false
  | .undeclaredWrites state l => l ≠ [] ∧ state ≠ p.halt ∧ ∃ card, p.card? state = some card ∧
    Enumerates l fun c => (∃ read a, card.get? read = some a ∧ a.write = c) ∧
      p.alphabet.contains c = false ∧ p.markers.contains c = false
  | .undefinedNext state c next => state ≠ p.halt ∧ ∃ card a, p.card? state = some card ∧
    card.get? c = some a ∧ a.next = next ∧ next ≠ p.halt ∧ p.card? next = none
  | .unreachableStates ids => ids ≠ [] ∧
    Enumerates ids fun id => (∃ card, p.card? id = some card) ∧ id ≠ p.halt ∧ ¬ p.Reaches id
  | .invalidHead _ _ | .invalidTapeSymbols _ => False

/-! ### What is listed -/

theorem enumerates_missing (p : Program) (card : Card) :
    Enumerates (p.alphabet.toList.filter fun c => !card.contains c)
      fun c => p.alphabet.contains c = true ∧ card.contains c = false :=
  (p.alphabet.enumerates_keys.filter _).congr fun _ => by rw [Bool.not_eq_true']

theorem enumerates_undeclared (p : Program) (card : Card) :
    Enumerates (card.keys.filter fun c => !p.alphabet.contains c)
      fun c => card.contains c = true ∧ p.alphabet.contains c = false :=
  (card.enumerates_keys.filter _).congr fun _ => by rw [Bool.not_eq_true']

theorem declares_eq_false_iff {c : Symbol} : p.declares c = false ↔
    p.alphabet.contains c = false ∧ p.markers.contains c = false := Bool.or_eq_false_iff

theorem enumerates_writes (p : Program) (card : Card) :
    Enumerates (KeySet.ofList
        ((card.entries.map fun a => a.2.write).filter fun c => !p.declares c)).toList
      fun c => (∃ read a, card.get? read = some a ∧ a.write = c) ∧
        p.alphabet.contains c = false ∧ p.markers.contains c = false := by
  refine (KeyMap.enumerates_keys _).congr fun c => ?_
  rw [KeySet.contains_ofList, List.mem_filter, List.mem_map, Bool.not_eq_true',
    declares_eq_false_iff]
  simp only [Prod.exists, KeyMap.get?_eq_some_iff]

theorem enumerates_unreachable (p : Program) : Enumerates p.unreachable fun id =>
    (∃ card, p.card? id = some card) ∧ id ≠ p.halt ∧ ¬ p.Reaches id :=
  ⟨p.pairwise_unreachable.imp UInt32.lt_iff_toNat_lt.mp, fun _ => mem_unreachable_iff⟩

/-! ### Problems and conditions -/

theorem defines_iff {id : StateId} :
    p.defines id = true ↔ id = p.halt ∨ ∃ card, p.card? id = some card := by
  rw [defines, Bool.or_eq_true, beq_iff_eq, Option.isSome_iff_exists]

theorem defines_eq_false_iff {id : StateId} :
    p.defines id = false ↔ id ≠ p.halt ∧ p.card? id = none := by
  rw [defines, Bool.or_eq_false_iff, beq_eq_false_iff_ne, Option.isSome_eq_false_iff,
    Option.isNone_iff_eq_none]

theorem isEmpty_alphabet_iff :
    p.alphabet.isEmpty = true ↔ ∀ c, p.alphabet.contains c = false := by
  rw [KeyMap.isEmpty_iff, List.eq_nil_iff_forall_not_mem]
  simp only [← Bool.not_eq_true, KeyMap.contains_iff, not_exists, Prod.forall]

/-- What is wrong with the card of a state other than the halting state violates a condition. -/
theorem violates_of_cardFlaw (hc : p.card? state = some card) (hne : state ≠ p.halt)
    (h : p.CardFlaw state card x) : p.Violates x := by
  cases h with
  | missingSymbols hl h => exact ⟨hl, hne, card, hc, h ▸ p.enumerates_missing card⟩
  | undeclaredSymbols hl h => exact ⟨hl, hne, card, hc, h ▸ p.enumerates_undeclared card⟩
  | undeclaredWrites hl h => exact ⟨hl, hne, card, hc, h ▸ p.enumerates_writes card⟩
  | @undefinedNext c a ha h =>
    obtain ⟨hhalt, hnone⟩ := defines_eq_false_iff.mp h
    exact ⟨hne, card, a, hc, KeyMap.get?_eq_some_iff.mpr ha, rfl, hhalt, hnone⟩

theorem violates_of_flaw (h : p.Flaw x) : p.Violates x := by
  cases h with
  | emptyAlphabet h => exact isEmpty_alphabet_iff.mp h
  | invalidEntry h => exact ⟨rfl, defines_eq_false_iff.mp h⟩
  | haltingStateHasCard h => exact ⟨rfl, _, KeyMap.get?_eq_some_iff.mpr h⟩
  | strayHaltingState h hne => exact ⟨hne, KeyMap.get?_eq_some_iff.mpr h⟩
  | ofCard hc hne h => exact violates_of_cardFlaw hc hne h
  | unreachableStates h => exact ⟨h, p.enumerates_unreachable⟩

theorem flaw_of_violates : ∀ {x : Problem}, p.Violates x → p.Flaw x
  | .emptyAlphabet, h => .emptyAlphabet (isEmpty_alphabet_iff.mpr h)
  | .invalidEntry _, ⟨rfl, h⟩ => .invalidEntry (defines_eq_false_iff.mpr h)
  | .haltingStateHasCard _, ⟨rfl, _, h⟩ => .haltingStateHasCard (KeyMap.get?_eq_some_iff.mp h)
  | .strayHaltingState _, ⟨hne, h⟩ => .strayHaltingState (KeyMap.get?_eq_some_iff.mp h) hne
  | .missingSymbols _ _, ⟨hl, hne, card, hc, h⟩ =>
    .ofCard hc hne (.missingSymbols hl (h.unique (p.enumerates_missing card)))
  | .undeclaredSymbols _ _, ⟨hl, hne, card, hc, h⟩ =>
    .ofCard hc hne (.undeclaredSymbols hl (h.unique (p.enumerates_undeclared card)))
  | .undeclaredWrites _ _, ⟨hl, hne, card, hc, h⟩ =>
    .ofCard hc hne (.undeclaredWrites hl (h.unique (p.enumerates_writes card)))
  | .undefinedNext _ _ _, ⟨hne, _, _, hc, ha, rfl, h⟩ =>
    .ofCard hc hne (.undefinedNext (KeyMap.get?_eq_some_iff.mp ha) (defines_eq_false_iff.mpr h))
  | .unreachableStates _, ⟨hne, h⟩ => by
    obtain rfl := h.unique p.enumerates_unreachable
    exact .unreachableStates hne

/-- **A problem is reported if and only if its condition is violated**, with all that is at
fault. -/
theorem mem_problems_iff_violates : x ∈ p.problems ↔ p.Violates x :=
  mem_problems_iff.trans ⟨violates_of_flaw, flaw_of_violates⟩

/-- **A well-formed program violates no condition.** -/
theorem WellFormed.not_violates (hp : p.WellFormed) : ∀ x, ¬ p.Violates x
  | .emptyAlphabet, h => by
    obtain ⟨c, hc⟩ := hp.alphabet
    exact absurd hc (Bool.eq_false_iff.mp (h c))
  | .invalidEntry _, ⟨rfl, hne, hnone⟩ => by
    obtain ⟨card, hc⟩ := hp.entry.resolve_left hne
    rw [hnone] at hc
    cases hc
  | .haltingStateHasCard _, ⟨rfl, card, h⟩ => hp.halting card h
  | .strayHaltingState _, ⟨hne, h⟩ => hne (hp.placeholder _ h)
  | .missingSymbols _ l, ⟨hl, hne, card, hc, h⟩ => by
    obtain ⟨c, hmem⟩ := List.exists_mem_of_ne_nil l hl
    obtain ⟨hin, hout⟩ := (h.mem_iff c).mp hmem
    exact Bool.eq_false_iff.mp hout ((hp.reads _ card hne hc c).mpr hin)
  | .undeclaredSymbols _ l, ⟨hl, hne, card, hc, h⟩ => by
    obtain ⟨c, hmem⟩ := List.exists_mem_of_ne_nil l hl
    obtain ⟨hin, hout⟩ := (h.mem_iff c).mp hmem
    exact Bool.eq_false_iff.mp hout ((hp.reads _ card hne hc c).mp hin)
  | .undeclaredWrites _ l, ⟨hl, hne, card, hc, h⟩ => by
    obtain ⟨c, hmem⟩ := List.exists_mem_of_ne_nil l hl
    obtain ⟨⟨read, a, ha, rfl⟩, halphabet, hmarkers⟩ := (h.mem_iff c).mp hmem
    rcases hp.writes _ card hne hc read a ha with hw | hw
    · exact Bool.eq_false_iff.mp halphabet hw
    · exact Bool.eq_false_iff.mp hmarkers hw
  | .undefinedNext _ c _, ⟨hne, card, a, hc, ha, rfl, hhalt, hnone⟩ => by
    obtain ⟨card', hc'⟩ := (hp.next _ card hne hc c a ha).resolve_left hhalt
    rw [hnone] at hc'
    cases hc'
  | .unreachableStates ids, ⟨hl, h⟩ => by
    obtain ⟨id, hmem⟩ := List.exists_mem_of_ne_nil ids hl
    obtain ⟨⟨card, hc⟩, hne, hnot⟩ := (h.mem_iff id).mp hmem
    exact hnot (hp.reachable id card hne hc)

/-- **A program that violates no condition is well-formed.** -/
theorem wellFormed_of_not_violates (h : ∀ x, ¬ p.Violates x) : p.WellFormed where
  alphabet := by
    by_contra hn
    refine h .emptyAlphabet fun c => Bool.eq_false_iff.mpr fun hc => hn ⟨c, hc⟩
  entry := by
    by_contra hn
    rw [← defines_iff, Bool.not_eq_true, defines_eq_false_iff] at hn
    exact h (.invalidEntry p.entry) ⟨rfl, hn⟩
  halting card hcard := h (.haltingStateHasCard p.halt) ⟨rfl, card, hcard⟩
  placeholder state hst := by
    by_contra hne
    exact h (.strayHaltingState state) ⟨hne, hst⟩
  reads state card hne hc c := by
    constructor
    · intro hin
      by_contra hout
      have hfault := p.enumerates_undeclared card
      exact h (.undeclaredSymbols state _)
        ⟨hfault.ne_nil ⟨hin, Bool.eq_false_iff.mpr hout⟩, hne, card, hc, hfault⟩
    · intro hin
      by_contra hout
      have hfault := p.enumerates_missing card
      exact h (.missingSymbols state _)
        ⟨hfault.ne_nil ⟨hin, Bool.eq_false_iff.mpr hout⟩, hne, card, hc, hfault⟩
  writes state card hne hc c a ha := by
    by_contra hn
    obtain ⟨halphabet, hmarkers⟩ := not_or.mp hn
    have hfault := p.enumerates_writes card
    exact h (.undeclaredWrites state _) ⟨hfault.ne_nil ⟨⟨c, a, ha, rfl⟩,
      Bool.eq_false_iff.mpr halphabet, Bool.eq_false_iff.mpr hmarkers⟩, hne, card, hc, hfault⟩
  next state card hne hc c a ha := by
    by_contra hn
    rw [← defines_iff, Bool.not_eq_true, defines_eq_false_iff] at hn
    exact h (.undefinedNext state c a.next) ⟨hne, card, a, hc, ha, rfl, hn⟩
  reachable state card hne hc := by
    by_contra hn
    have hfault := p.enumerates_unreachable
    exact h (.unreachableStates _) ⟨hfault.ne_nil ⟨⟨card, hc⟩, hne, hn⟩, hfault⟩

end Program

/-! ### The order of the problems -/

namespace Problem

/-- The check that finds a problem, by its number. -/
def stage : Problem → Nat
  | emptyAlphabet => 0
  | invalidEntry _ => 1
  | haltingStateHasCard _ | strayHaltingState _ => 2
  | missingSymbols _ _ | undeclaredSymbols _ _ | undeclaredWrites _ _ | undefinedNext _ _ _ => 3
  | unreachableStates _ => 4
  | invalidHead _ _ => 5
  | invalidTapeSymbols _ => 6

/-- What a problem is about, apart from what it lists: a state, and on a card one of three respects
or an action. -/
def place : Problem → List Nat
  | haltingStateHasCard state | strayHaltingState state => [state.toNat]
  | missingSymbols state _ => [state.toNat, 0]
  | undeclaredSymbols state _ => [state.toNat, 1]
  | undeclaredWrites state _ => [state.toNat, 2]
  | undefinedNext state c _ => [state.toNat, 3, c.toNat]
  | emptyAlphabet | invalidEntry _ | unreachableStates _ | invalidHead _ _
  | invalidTapeSymbols _ => []

/-- Problems are ordered by the check that finds them and by what they are about, number by
number. -/
def rank (x : Problem) : List Nat := x.stage :: x.place

variable {x y : Problem}

theorem rank_lt_of_stage (h : x.stage < y.stage) : x.rank < y.rank :=
  List.cons_lt_cons_iff.mpr (.inl h)

theorem rank_lt_of_place (h : x.stage = y.stage) (hlt : x.place < y.place) : x.rank < y.rank :=
  List.cons_lt_cons_iff.mpr (.inr ⟨h, hlt⟩)

end Problem

namespace Program

variable {p : Program} {x y : Problem} {state : StateId} {card : Card}

theorem pairwise_blame {α : Type} {R : Problem → Problem → Prop} (f : List α → Problem)
    (l : List α) : (blame f l).Pairwise R := by
  unfold blame
  split
  · exact .nil
  · exact List.pairwise_singleton _ _

/-- Problems with a card are about its state. -/
theorem place_of_cardProblems (h : x ∈ p.cardProblems state card) :
    x.stage = 3 ∧ ∃ place, x.place = state.toNat :: place := by
  cases mem_cardProblems_iff.mp h <;> exact ⟨rfl, _, rfl⟩

/-- **The problems of a card** are in order. -/
theorem pairwise_rank_cardProblems (p : Program) (state : StateId) (card : Card) :
    (p.cardProblems state card).Pairwise fun x y => x.rank < y.rank := by
  have hnext : (p.nextProblems state card).Pairwise fun x y => x.rank < y.rank := by
    refine List.pairwise_filterMap.mpr (card.increasing.imp fun {a b} hlt x hx y hy => ?_)
    split at hx
    · cases hx
    · split at hy
      · cases hy
      · cases hx
        cases hy
        refine Problem.rank_lt_of_place rfl ?_
        rw [Problem.place, Problem.place, List.cons_lt_cons_self, List.cons_lt_cons_self]
        exact List.cons_lt_cons_iff.mpr (.inl hlt)
  unfold cardProblems
  simp only [List.pairwise_append, pairwise_blame, hnext, true_and, List.mem_append, mem_blame_iff,
    mem_nextProblems_iff]
  refine ⟨⟨?_, ?_⟩, ?_⟩
  · rintro x ⟨-, rfl⟩ y ⟨-, rfl⟩
    simp [Problem.rank, Problem.stage, Problem.place, List.cons_lt_cons_iff]
  · rintro x (⟨-, rfl⟩ | ⟨-, rfl⟩) y ⟨-, rfl⟩ <;>
      simp [Problem.rank, Problem.stage, Problem.place, List.cons_lt_cons_iff]
  · rintro x ((⟨-, rfl⟩ | ⟨-, rfl⟩) | ⟨-, rfl⟩) y ⟨c, a, -, -, rfl⟩ <;>
      simp [Problem.rank, Problem.stage, Problem.place, List.cons_lt_cons_iff]

/-- A problem with the table entry of a state is about that state. -/
theorem place_of_haltProblem {e : StateId × State}
    (h : x ∈ match e.2 with
      | .executable _ => if e.1 = p.halt then [Problem.haltingStateHasCard e.1] else []
      | .halting => if e.1 = p.halt then [] else [Problem.strayHaltingState e.1]) :
    x.stage = 2 ∧ x.place = [e.1.toNat] := by
  split at h <;> split at h
  · obtain rfl := List.mem_singleton.mp h
    exact ⟨rfl, rfl⟩
  · cases h
  · cases h
  · obtain rfl := List.mem_singleton.mp h
    exact ⟨rfl, rfl⟩

theorem pairwise_rank_haltProblems (p : Program) :
    p.haltProblems.Pairwise fun x y => x.rank < y.rank := by
  unfold haltProblems
  refine List.pairwise_flatMap.mpr ⟨fun e _ => ?_, ?_⟩
  · split <;> split <;> simp
  · refine p.states.increasing.imp fun hlt x hx y hy => ?_
    obtain ⟨hstage, hx⟩ := place_of_haltProblem hx
    obtain ⟨hstage', hy⟩ := place_of_haltProblem hy
    refine Problem.rank_lt_of_place (hstage.trans hstage'.symm) ?_
    rw [hx, hy]
    exact List.cons_lt_cons_iff.mpr (.inl hlt)

/-- Problems in order that the first `n` checks find. -/
def Staged (n : Nat) (l : List Problem) : Prop :=
  (l.Pairwise fun x y => x.rank < y.rank) ∧ ∀ x ∈ l, x.stage < n

theorem Staged.append {n : Nat} {l l' : List Problem} (hl : Staged n l)
    (hl' : l'.Pairwise fun x y => x.rank < y.rank) (hstage : ∀ x ∈ l', x.stage = n) :
    Staged (n + 1) (l ++ l') := by
  refine ⟨List.pairwise_append.mpr ⟨hl.1, hl', fun x hx y hy => ?_⟩, fun x hx => ?_⟩
  · exact Problem.rank_lt_of_stage (hstage y hy ▸ hl.2 x hx)
  · rcases List.mem_append.mp hx with hx | hx
    · exact Nat.lt_succ_of_lt (hl.2 x hx)
    · exact hstage x hx ▸ Nat.lt_succ_self n

/-- **The problems of a program are in order.** -/
theorem pairwise_rank_problems (p : Program) :
    p.problems.Pairwise fun x y => x.rank < y.rank := by
  have halphabet : Staged 1 p.alphabetProblems := by
    unfold alphabetProblems
    split <;> simp [Staged, Problem.stage]
  have hentry : p.entryProblems.Pairwise (fun x y => x.rank < y.rank) ∧
      ∀ x ∈ p.entryProblems, x.stage = 1 := by
    unfold entryProblems
    split <;> simp [Problem.stage]
  have hhalt : ∀ x ∈ p.haltProblems, x.stage = 2 := by
    intro x hx
    rcases mem_haltProblems_iff.mp hx with ⟨_, -, rfl⟩ | ⟨_, -, -, rfl⟩ <;> rfl
  have hcards : ((p.cards.filter fun e => e.1 ≠ p.halt).flatMap fun e =>
      p.cardProblems e.1 e.2).Pairwise fun x y => x.rank < y.rank := by
    refine List.pairwise_flatMap.mpr ⟨fun e _ => p.pairwise_rank_cardProblems e.1 e.2,
      (p.pairwise_cards.filter _).imp fun {a b} hlt x hx y hy => ?_⟩
    obtain ⟨hstage, place, hx⟩ := place_of_cardProblems hx
    obtain ⟨hstage', place', hy⟩ := place_of_cardProblems hy
    refine Problem.rank_lt_of_place (hstage.trans hstage'.symm) ?_
    rw [hx, hy]
    exact List.cons_lt_cons_iff.mpr (.inl (UInt32.lt_iff_toNat_lt.mp hlt))
  have hcard : ∀ x ∈ (p.cards.filter fun e => e.1 ≠ p.halt).flatMap fun e =>
      p.cardProblems e.1 e.2, x.stage = 3 := by
    intro x hx
    obtain ⟨e, -, hx⟩ := List.mem_flatMap.mp hx
    exact (place_of_cardProblems hx).1
  have hreach : ∀ x ∈ blame Problem.unreachableStates p.unreachable, x.stage = 4 := by
    intro x hx
    obtain ⟨-, rfl⟩ := mem_blame_iff.mp hx
    rfl
  exact ((((halphabet.append hentry.1 hentry.2).append p.pairwise_rank_haltProblems hhalt).append
    hcards hcard).append (pairwise_blame _ _) hreach).1

/-- **The checks of a program are sound and complete.** There are no problems if and only if the
program is well-formed. A problem is reported if and only if its condition is violated, and lists
all that is at fault in increasing order. The problems are in strictly increasing order of what
they are about, so no two are about the same: at most one of each kind is about the symbols of a
card, and one is about each action that goes to an undefined state. -/
theorem problems_eq_nil_iff_wellFormed (p : Program) :
    (p.problems = [] ↔ p.WellFormed) ∧ (∀ x, x ∈ p.problems ↔ p.Violates x) ∧
    (p.problems.Pairwise fun x y => x.rank < y.rank) ∧ (p.problems.map Problem.rank).Nodup := by
  refine ⟨?_, fun x => mem_problems_iff_violates, p.pairwise_rank_problems, ?_⟩
  · rw [List.eq_nil_iff_forall_not_mem]
    simp only [mem_problems_iff_violates]
    exact ⟨wellFormed_of_not_violates, WellFormed.not_violates⟩
  · refine List.pairwise_map.mpr (p.pairwise_rank_problems.imp fun hlt he => ?_)
    rw [he] at hlt
    exact List.lt_irrefl _ hlt

end Program

end CardMachine
