import CardMachine.Proofs.Machine.Safety

/-! # Which problems a program has

The list of problems is made check by check. Here it is turned around: `Program.Flaw` says of each
kind of problem when a program has it, and a problem is on the list if and only if the program has
it (`mem_problems_iff`). The problems of a single card are `Program.CardFlaw`. So what follows from
a problem, or from there being none of its kind, is found by cases on the problem. -/

namespace CardMachine.Program

variable {p : Program} {x : Problem} {state : StateId} {card : Card}

/-- What is wrong with the card of a state. -/
inductive CardFlaw (p : Program) (state : StateId) (card : Card) : Problem → Prop where
  | missingSymbols {l : List Symbol} (hl : l ≠ [])
      (h : l = p.alphabet.toList.filter fun c => !card.contains c) :
      CardFlaw p state card (.missingSymbols state l)
  | undeclaredSymbols {l : List Symbol} (hl : l ≠ [])
      (h : l = card.keys.filter fun c => !p.alphabet.contains c) :
      CardFlaw p state card (.undeclaredSymbols state l)
  | undeclaredWrites {l : List Symbol} (hl : l ≠ [])
      (h : l = (KeySet.ofList
        ((card.entries.map fun a => a.2.write).filter fun c => !p.declares c)).toList) :
      CardFlaw p state card (.undeclaredWrites state l)
  | undefinedNext {c : Symbol} {a : Action} (ha : (c, a) ∈ card.entries)
      (h : p.defines a.next = false) : CardFlaw p state card (.undefinedNext state c a.next)

/-- What is wrong with a program. -/
inductive Flaw (p : Program) : Problem → Prop where
  | emptyAlphabet (h : p.alphabet.isEmpty = true) : Flaw p .emptyAlphabet
  | invalidEntry (h : p.defines p.entry = false) : Flaw p (.invalidEntry p.entry)
  | haltingStateHasCard {card : Card} (h : (p.halt, .executable card) ∈ p.states.entries) :
      Flaw p (.haltingStateHasCard p.halt)
  | strayHaltingState {state : StateId} (h : (state, .halting) ∈ p.states.entries)
      (hne : state ≠ p.halt) : Flaw p (.strayHaltingState state)
  | ofCard {state : StateId} {card : Card} {x : Problem} (hc : p.card? state = some card)
      (hne : state ≠ p.halt) (h : CardFlaw p state card x) : Flaw p x
  | unreachableStates (h : p.unreachable ≠ []) : Flaw p (.unreachableStates p.unreachable)

theorem mem_blame_iff {α : Type} {f : List α → Problem} {l : List α} :
    x ∈ blame f l ↔ l ≠ [] ∧ x = f l := by
  cases l <;> simp [blame]

theorem mem_nextProblems_iff : x ∈ p.nextProblems state card ↔
    ∃ c a, (c, a) ∈ card.entries ∧ p.defines a.next = false ∧
      x = .undefinedNext state c a.next := by
  simp only [nextProblems, List.mem_filterMap]
  constructor
  · rintro ⟨⟨c, a⟩, ha, h⟩
    split at h
    · cases h
    · rename_i hn
      cases h
      exact ⟨c, a, ha, by simpa using hn, rfl⟩
  · rintro ⟨c, a, ha, hn, rfl⟩
    exact ⟨(c, a), ha, by simp [hn]⟩

/-- **The problems of a card** are what is wrong with it. -/
theorem mem_cardProblems_iff : x ∈ p.cardProblems state card ↔ p.CardFlaw state card x := by
  simp only [cardProblems, List.mem_append, mem_blame_iff, mem_nextProblems_iff]
  constructor
  · rintro (((⟨hl, rfl⟩ | ⟨hl, rfl⟩) | ⟨hl, rfl⟩) | ⟨c, a, ha, hn, rfl⟩)
    · exact .missingSymbols hl rfl
    · exact .undeclaredSymbols hl rfl
    · exact .undeclaredWrites hl rfl
    · exact .undefinedNext ha hn
  · rintro (⟨hl, rfl⟩ | ⟨hl, rfl⟩ | ⟨hl, rfl⟩ | ⟨ha, hn⟩)
    · exact .inl (.inl (.inl ⟨hl, rfl⟩))
    · exact .inl (.inl (.inr ⟨hl, rfl⟩))
    · exact .inl (.inr ⟨hl, rfl⟩)
    · exact .inr ⟨_, _, ha, hn, rfl⟩

theorem mem_haltProblems_iff : x ∈ p.haltProblems ↔
    (∃ card, (p.halt, .executable card) ∈ p.states.entries ∧ x = .haltingStateHasCard p.halt) ∨
    ∃ state, (state, .halting) ∈ p.states.entries ∧ state ≠ p.halt ∧
      x = .strayHaltingState state := by
  simp only [haltProblems, List.mem_flatMap]
  constructor
  · rintro ⟨⟨state, st⟩, he, hx⟩
    cases st with
    | executable card =>
      by_cases hs : state = p.halt
      · subst hs
        exact .inl ⟨card, he, by simpa using hx⟩
      · simp [hs] at hx
    | halting =>
      by_cases hs : state = p.halt
      · simp [hs] at hx
      · exact .inr ⟨state, he, hs, by simpa [hs] using hx⟩
  · rintro (⟨card, he, rfl⟩ | ⟨state, he, hs, rfl⟩)
    · exact ⟨_, he, by simp⟩
    · exact ⟨_, he, by simp [hs]⟩

/-- **The problems of a program** are what is wrong with it. -/
theorem mem_problems_iff : x ∈ p.problems ↔ p.Flaw x := by
  have hcards : ∀ {state card}, (state, card) ∈ p.cards.filter (fun e => e.1 ≠ p.halt) ↔
      p.card? state = some card ∧ state ≠ p.halt := by
    intro state card
    rw [List.mem_filter, ← card?_eq_some_iff]
    simp
  simp only [problems, alphabetProblems, entryProblems, List.mem_append, mem_haltProblems_iff,
    List.mem_flatMap, mem_cardProblems_iff, mem_blame_iff]
  constructor
  · rintro ((((hx | hx) | (⟨card, he, rfl⟩ | ⟨state, he, hs, rfl⟩)) | ⟨⟨state, card⟩, hc, hx⟩) |
      ⟨hl, rfl⟩)
    · split at hx
      · rename_i h
        obtain rfl := List.mem_singleton.mp hx
        exact .emptyAlphabet h
      · cases hx
    · split at hx
      · cases hx
      · rename_i h
        obtain rfl := List.mem_singleton.mp hx
        exact .invalidEntry (by simpa using h)
    · exact .haltingStateHasCard he
    · exact .strayHaltingState he hs
    · obtain ⟨hc, hs⟩ := hcards.mp hc
      exact .ofCard hc hs hx
    · exact .unreachableStates hl
  · rintro (h | h | h | ⟨h, hs⟩ | ⟨hc, hs, h⟩ | h)
    · exact .inl (.inl (.inl (.inl (by simp [h]))))
    · exact .inl (.inl (.inl (.inr (by simp [h]))))
    · exact .inl (.inl (.inr (.inl ⟨_, h, rfl⟩)))
    · exact .inl (.inl (.inr (.inr ⟨_, h, hs, rfl⟩)))
    · exact .inl (.inr ⟨_, hcards.mpr ⟨hc, hs⟩, h⟩)
    · exact .inr ⟨h, rfl⟩

end CardMachine.Program
