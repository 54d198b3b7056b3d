import CardMachine.Proofs.Check.Problems

/-! # The search for reachable states

`Program.Reaches` says which states a run may come to if any symbol may come under the head. The
search for them is a loop: as long as there is a state to visit, it makes another round
(`Program.round?`). What one round does is said once, in `round_cases`.

A round need not make the list of the states to visit shorter, since what is found is added to it.
But each state is looked at once, and what is found then is at most what its card has in actions. So
the states to visit and the actions on the cards that have not been looked at become fewer in every
round (`weight_lt_of_round?`): the loop ends from everywhere (`wellFounded_round?`).

What was met can be reached, and the successors of what was seen were met (`Search.Faithful`). Every
round keeps this, so the search ends with the states that can be reached and no others
(`Rounds.contains_iff`). `Program.visit` is this loop with fuel for as many rounds as can come
(`rounds_visit`), so the check for unreachable states is exact (`unreachableStates_mem_iff`). -/

namespace CardMachine.Program

variable {p : Program} {a b state : StateId} {seen : KeySet StateId}

/-! ### Paths -/

/-- A path of actions leads from the entry state to the state, through cards of states other than
the halting state. -/
inductive Reaches (p : Program) : StateId → Prop where
  | entry : Reaches p p.entry
  | next {state : StateId} {card : Card} {c : Symbol} {a : Action} (h : Reaches p state)
      (hne : state ≠ p.halt) (hc : p.card? state = some card) (ha : (c, a) ∈ card.entries) :
      Reaches p a.next

theorem mem_successors_iff : b ∈ p.successors state ↔ state ≠ p.halt ∧
    ∃ card c a, p.card? state = some card ∧ (c, a) ∈ card.entries ∧ a.next = b := by
  unfold successors
  by_cases hs : state = p.halt
  · simp [hs]
  · rw [if_neg hs]
    cases hc : p.card? state with
    | none => simp
    | some card => simp [hs]

theorem Reaches.successor (h : p.Reaches state) (hb : b ∈ p.successors state) : p.Reaches b := by
  obtain ⟨hne, card, c, a, hc, ha, rfl⟩ := mem_successors_iff.mp hb
  exact .next h hne hc ha

/-- What holds of the entry state and of the successors of what it holds of, holds of all states
that can be reached. -/
theorem Reaches.closed {I : StateId → Prop} (hentry : I p.entry)
    (hnext : ∀ a, I a → ∀ b ∈ p.successors a, I b) (h : p.Reaches state) : I state := by
  induction h with
  | entry => exact hentry
  | next _ hne hc ha ih => exact hnext _ ih _ (mem_successors_iff.mpr ⟨hne, _, _, _, hc, ha, rfl⟩)

/-! ### One round -/

/-- Where the search is: the states to visit, of which the first comes next, and those visited. -/
structure Search where
  queue : List StateId
  seen : KeySet StateId

/-- One round of the search; there is none if no state is left to visit. A state that was visited
before is passed over. Else it is visited, and those of its successors that were not are put in front
of the others, the last found first. -/
def round? (p : Program) : Search → Option Search
  | ⟨[], _⟩ => none
  | ⟨state :: queue, seen⟩ => some <|
    if seen.contains state then ⟨queue, seen⟩
    else
      let seen' := KeySet.add seen state
      let found := (p.successors state).filter fun next => !seen'.contains next
      ⟨found.reverse ++ queue, seen'⟩

/-- That many rounds lead from one place of the search to another. -/
inductive Rounds (p : Program) : Nat → Search → Search → Prop where
  | done (s : Search) : Rounds p 0 s s
  | next {n : Nat} {s s₁ s' : Search} (h : p.round? s = some s₁) (hr : Rounds p n s₁ s') :
      Rounds p (n + 1) s s'

/-- The state was seen or is to be visited. -/
def Search.Meets (s : Search) (a : StateId) : Prop := s.seen.contains a = true ∨ a ∈ s.queue

variable {s s' : Search} {n : Nat}

/-- **What a round does**: it passes over a state that was seen, and what was met stays the same; or
it sees a state that was to be visited, and its successors are met besides. -/
theorem round_cases : ∀ {s : Search}, p.round? s = some s' →
    (s'.seen = s.seen ∧ ∀ a, s'.Meets a ↔ s.Meets a) ∨
    ∃ state, s.Meets state ∧
      (∀ a, s'.seen.contains a = true ↔ a = state ∨ s.seen.contains a = true) ∧
      ∀ a, s'.Meets a ↔ s.Meets a ∨ a ∈ p.successors state
  | ⟨[], _⟩, h => by cases h
  | ⟨state :: queue, seen⟩, h => by
    obtain rfl := Option.some.inj h
    by_cases hs : seen.contains state = true
    · rw [if_pos hs]
      refine .inl ⟨rfl, fun a => ⟨fun ha => ha.imp_right (List.mem_cons_of_mem _), ?_⟩⟩
      rintro (ha | ha)
      · exact .inl ha
      · rcases List.mem_cons.mp ha with rfl | ha
        · exact .inl hs
        · exact .inr ha
    · rw [if_neg hs]
      refine .inr ⟨state, .inr List.mem_cons_self, fun a => KeySet.contains_add, fun a => ?_⟩
      simp only [Search.Meets, List.mem_append, List.mem_reverse, List.mem_filter, List.mem_cons,
        KeySet.contains_add, Bool.not_eq_true', ← Bool.not_eq_true]
      constructor
      · rintro ((rfl | ha) | (⟨ha, -⟩ | ha))
        · exact .inl (.inr (.inl rfl))
        · exact .inl (.inl ha)
        · exact .inr ha
        · exact .inl (.inr (.inr ha))
      · rintro ((ha | rfl | ha) | ha)
        · exact .inl (.inr ha)
        · exact .inl (.inl rfl)
        · exact .inr (.inr ha)
        · -- a successor is put on the list unless it is seen by now
          exact (Decidable.em _).imp_right fun hn => .inl ⟨ha, hn⟩

/-! ### The end of the loop -/

/-- The number of actions on a card, if it has not been looked at. -/
def load (seen : KeySet StateId) (e : StateId × Card) : Nat :=
  if seen.contains e.1 then 0 else e.2.size

/-- The number of actions on the cards that have not been looked at. -/
def pending (seen : KeySet StateId) (cards : List (StateId × Card)) : Nat :=
  cards.foldr (fun e n => load seen e + n) 0

theorem load_add_le (seen : KeySet StateId) (state : StateId) (e : StateId × Card) :
    load (KeySet.add seen state) e ≤ load seen e := by
  unfold load
  split
  · exact Nat.zero_le _
  · rename_i hadd
    have hseen : ¬seen.contains e.1 = true := fun h => hadd (KeySet.contains_add.mpr (.inr h))
    exact Nat.le_of_eq (if_neg hseen).symm

theorem load_add_self {card : Card} : load (KeySet.add seen state) (state, card) = 0 :=
  if_pos (KeySet.contains_add.mpr (.inl rfl))

theorem pending_add_le (seen : KeySet StateId) (state : StateId) :
    ∀ cards : List (StateId × Card),
      pending (KeySet.add seen state) cards ≤ pending seen cards
  | [] => Nat.le_refl _
  | e :: cards => Nat.add_le_add (load_add_le seen state e) (pending_add_le seen state cards)

/-- A card that is looked at for the first time is not pending any more. -/
theorem pending_add {card : Card} (hs : seen.contains state = false) :
    ∀ {cards : List (StateId × Card)}, (state, card) ∈ cards →
      pending (KeySet.add seen state) cards + card.size ≤ pending seen cards
  | e :: cards, h => by
    show load (KeySet.add seen state) e + pending (KeySet.add seen state) cards + card.size ≤
      load seen e + pending seen cards
    have hle := pending_add_le seen state cards
    have hload := load_add_le seen state e
    rcases List.mem_cons.mp h with rfl | h
    · have hcard : load seen (state, card) = card.size := if_neg (by simp [hs])
      rw [load_add_self, hcard]
      omega
    · have ih := pending_add hs h
      omega

theorem pending_successors (hs : seen.contains state = false) :
    pending (KeySet.add seen state) p.cards + (p.successors state).length ≤
      pending seen p.cards := by
  have hle := pending_add_le seen state p.cards
  unfold successors
  split
  · simpa using hle
  · split
    · simpa using hle
    · rename_i card hc
      rw [List.length_map]
      exact pending_add hs (card?_eq_some_iff.mp hc)

/-- The states to visit and the actions on the cards that have not been looked at. -/
def Search.weight (p : Program) (s : Search) : Nat := s.queue.length + pending s.seen p.cards

/-- **In every round the search has less to do.** -/
theorem weight_lt_of_round? : ∀ {s : Search}, p.round? s = some s' → s'.weight p < s.weight p
  | ⟨[], _⟩, h => by cases h
  | ⟨state :: queue, seen⟩, h => by
    obtain rfl := Option.some.inj h
    split
    · simp only [Search.weight, List.length_cons]
      omega
    · rename_i hs
      have hpending := pending_successors (p := p) (Bool.eq_false_iff.mpr hs)
      have hfound := List.length_filter_le
        (fun next => !(KeySet.add seen state).contains next) (p.successors state)
      simp only [Search.weight, List.length_append, List.length_reverse, List.length_cons]
      omega

/-- **The loop ends**, wherever it starts. -/
theorem wellFounded_round? (p : Program) : WellFounded fun s' s => p.round? s = some s' :=
  Subrelation.wf weight_lt_of_round? (measure (Search.weight p)).wf

/-! ### What the search finds -/

/-- What was met can be reached, the entry state is met, and so are the successors of what was
seen. -/
structure Search.Faithful (p : Program) (s : Search) : Prop where
  reaches : ∀ a, s.Meets a → p.Reaches a
  entry : s.Meets p.entry
  successors : ∀ a, s.seen.contains a = true → ∀ b ∈ p.successors a, s.Meets b

theorem Search.faithful_start (p : Program) : Search.Faithful p ⟨[p.entry], ∅⟩ where
  reaches a ha := by
    rcases ha with ha | ha
    · cases ha
    · obtain rfl := List.mem_singleton.mp ha
      exact .entry
  entry := .inr (List.mem_singleton.mpr rfl)
  successors a ha := by cases ha

/-- **One round keeps this.** -/
theorem Search.Faithful.round (hs : s.Faithful p) (h : p.round? s = some s') : s'.Faithful p := by
  rcases round_cases h with ⟨hseen, hmeets⟩ | ⟨state, hstate, hseen, hmeets⟩
  · refine ⟨fun a ha => hs.reaches a ((hmeets a).mp ha), (hmeets _).mpr hs.entry, ?_⟩
    intro a ha b hb
    rw [hseen] at ha
    exact (hmeets b).mpr (hs.successors a ha b hb)
  · refine ⟨fun a ha => ?_, (hmeets _).mpr (.inl hs.entry), fun a ha b hb => (hmeets b).mpr ?_⟩
    · rcases (hmeets a).mp ha with ha | ha
      · exact hs.reaches a ha
      · exact (hs.reaches state hstate).successor ha
    · rcases (hseen a).mp ha with rfl | ha
      · exact .inr hb
      · exact .inl (hs.successors a ha b hb)

/-- Any number of rounds keep it. -/
theorem Rounds.faithful (h : p.Rounds n s s') (hs : s.Faithful p) : s'.Faithful p := by
  induction h with
  | done => exact hs
  | next h _ ih => exact ih (hs.round h)

/-- **A search that ends has seen the states that can be reached**, and no others. -/
theorem Rounds.contains_iff (h : p.Rounds n ⟨[p.entry], ∅⟩ ⟨[], seen⟩) :
    seen.contains a = true ↔ p.Reaches a := by
  have hend := h.faithful (Search.faithful_start p)
  have hseen : ∀ b, Search.Meets ⟨[], seen⟩ b → seen.contains b = true :=
    fun b hb => hb.resolve_right List.not_mem_nil
  exact ⟨fun ha => hend.reaches a (.inl ha), fun ha =>
    ha.closed (I := fun b => seen.contains b = true) (hseen _ hend.entry)
      fun b hb c hc => hseen c (hend.successors b hb c hc)⟩

/-- The search with fuel makes one round after the other. -/
theorem visit_of_round? {fuel : Nat} : ∀ {s : Search}, p.round? s = some s' →
    p.visit (fuel + 1) s.queue s.seen = p.visit fuel s'.queue s'.seen
  | ⟨[], _⟩, h => by cases h
  | ⟨state :: queue, seen⟩, h => by
    obtain rfl := Option.some.inj h
    rw [visit]
    split <;> rfl

/-- **The search with fuel is the loop** if the fuel is enough for what there is to do. -/
theorem rounds_visit : ∀ (fuel : Nat) (s : Search), s.weight p ≤ fuel →
    ∃ n ≤ fuel, p.Rounds n s ⟨[], p.visit fuel s.queue s.seen⟩
  | 0, ⟨queue, seen⟩, hfuel => by
    have hqueue : queue.length ≤ 0 := Nat.le_trans (Nat.le_add_right _ _) hfuel
    obtain rfl := List.length_eq_zero_iff.mp (Nat.le_zero.mp hqueue)
    exact ⟨0, Nat.le_refl 0, .done _⟩
  | fuel + 1, s, hfuel => by
    cases hs : p.round? s with
    | none =>
      obtain ⟨queue, seen⟩ := s
      cases queue with
      | nil => exact ⟨0, Nat.zero_le _, .done _⟩
      | cons state queue => cases hs
    | some s' =>
      obtain ⟨n, hn, hr⟩ := rounds_visit fuel s'
        (Nat.le_of_lt_succ (Nat.lt_of_lt_of_le (weight_lt_of_round? hs) hfuel))
      rw [visit_of_round? hs]
      exact ⟨n + 1, Nat.succ_le_succ hn, .next hs hr⟩

theorem pending_empty (p : Program) : pending ∅ p.cards = p.actionCount := rfl

/-- **The check looks for reachable states by the loop**, which ends after at most one round more
than there are actions. -/
theorem rounds_reachable (p : Program) :
    ∃ n ≤ p.actionCount + 1, p.Rounds n ⟨[p.entry], ∅⟩ ⟨[], p.reachable⟩ := by
  have hweight : Search.weight p ⟨[p.entry], ∅⟩ = p.actionCount + 1 := by
    rw [Search.weight, pending_empty, List.length_singleton, Nat.add_comm]
  exact rounds_visit (p.actionCount + 1) ⟨[p.entry], ∅⟩ (Nat.le_of_eq hweight)

/-! ### What is reported -/

theorem contains_reachable_iff : p.reachable.contains state = true ↔ p.Reaches state := by
  obtain ⟨n, -, h⟩ := p.rounds_reachable
  exact h.contains_iff

theorem mem_unreachable_iff : state ∈ p.unreachable ↔
    (∃ card, p.card? state = some card) ∧ state ≠ p.halt ∧ ¬ p.Reaches state := by
  have hcard : state ∈ p.cards.map Prod.fst ↔ ∃ card, p.card? state = some card := by
    simp only [card?_eq_some_iff, List.mem_map]
    constructor
    · rintro ⟨⟨id, card⟩, he, rfl⟩; exact ⟨card, he⟩
    · rintro ⟨card, he⟩; exact ⟨_, he, rfl⟩
  rw [← contains_reachable_iff, ← hcard]
  simp [unreachable]

theorem unreachableStates_mem_problems_iff {ids : List StateId} :
    .unreachableStates ids ∈ p.problems ↔ ids = p.unreachable ∧ p.unreachable ≠ [] := by
  rw [mem_problems_iff]
  constructor
  · intro h
    cases h with
    | ofCard _ _ h => cases h
    | unreachableStates h => exact ⟨rfl, h⟩
  · rintro ⟨rfl, h⟩
    exact .unreachableStates h

theorem pairwise_cards (p : Program) : p.cards.Pairwise fun a b => a.1 < b.1 := by
  refine List.pairwise_filterMap.mpr (p.states.increasing.imp fun {a b} hlt c hc d hd => ?_)
  obtain ⟨card, -, rfl⟩ := Option.map_eq_some_iff.mp hc
  obtain ⟨card', -, rfl⟩ := Option.map_eq_some_iff.mp hd
  exact UInt32.lt_iff_toNat_lt.mpr hlt

theorem pairwise_unreachable (p : Program) : p.unreachable.Pairwise (· < ·) :=
  (List.pairwise_map.mpr p.pairwise_cards).filter _

/-- **The check for unreachable states ends and is exact.** The search takes at most one round more
than there are actions, and from nowhere could it go on for ever; it ends with the set that the
check goes by. There is a list, strictly increasing, of exactly the executable states, other than
the halting state, to which no path leads; it is reported if it is not empty, and no other is. -/
theorem unreachableStates_mem_iff (p : Program) :
    (WellFounded fun s' s => p.round? s = some s') ∧
    (∃ n ≤ p.actionCount + 1, p.Rounds n ⟨[p.entry], ∅⟩ ⟨[], p.reachable⟩) ∧
    ∃ ids : List StateId, ids.Pairwise (· < ·) ∧
      (∀ id, id ∈ ids ↔
        (∃ card, p.card? id = some card) ∧ id ≠ p.halt ∧ ¬ p.Reaches id) ∧
      ∀ l, .unreachableStates l ∈ p.problems ↔ l = ids ∧ ids ≠ [] :=
  ⟨p.wellFounded_round?, p.rounds_reachable, p.unreachable, p.pairwise_unreachable,
    fun _ => mem_unreachable_iff, fun _ => unreachableStates_mem_problems_iff⟩

end CardMachine.Program
