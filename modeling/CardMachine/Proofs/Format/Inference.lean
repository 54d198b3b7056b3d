import CardMachine.Proofs.Check.WellFormed
import CardMachine.Proofs.Format.Acceptance

/-! # What a program reads and writes

A text need not say which symbols its program reads and writes besides. What it leaves out is
gathered from the declared cards, and the checks look at the cards of the program. These are the
same but for empty ones (`Declared.Makes.card?_iff`), and the card that is declared for the halting
state is one of them, although the checks pass it over. So an alphabet that was gathered holds what
some card reads (`Declared.Makes.contains_alphabet_iff`), the markers hold what some card writes and
none reads (`Declared.Makes.contains_markers_iff`), and the checks have nothing to say against
them. -/

namespace CardMachine

open Text (trim)

/-! ### Symbols on cards -/

namespace Program

variable {p : Program} {c : Symbol}

/-- Some card has an action for the symbol. -/
def ReadsSymbol (p : Program) (c : Symbol) : Prop :=
  ∃ id card, p.card? id = some card ∧ card.contains c = true

/-- Some action on some card writes the symbol. -/
def WritesSymbol (p : Program) (c : Symbol) : Prop :=
  ∃ id card read a, p.card? id = some card ∧ card.get? read = some a ∧ a.write = c

/-- No symbol is read if no card has an action. -/
theorem not_readsSymbol_iff : (∀ c, ¬ p.ReadsSymbol c) ↔
    ∀ id card, p.card? id = some card → card.entries = [] := by
  constructor
  · intro h id card hc
    refine List.eq_nil_iff_forall_not_mem.mpr fun e he => h e.1 ⟨id, card, hc, ?_⟩
    exact KeyMap.contains_iff.mpr ⟨e.2, he⟩
  · rintro h c ⟨id, card, hc, hread⟩
    obtain ⟨a, ha⟩ := KeyMap.contains_iff.mp hread
    rw [h id card hc] at ha
    cases ha

end Program

namespace Format

variable {p : Program} {d : Declared} {m : KeyMap StateId Card} {c : Symbol}

/-- The cards with actions are those that were declared with actions. -/
theorem Declared.Makes.card?_iff (hd : d.Makes m p) {id : StateId} {card : Card}
    (hne : card.entries ≠ []) : p.card? id = some card ↔ (id, card) ∈ m.entries := by
  refine ⟨fun h => hd.card (Program.card?_eq_some_iff.mp h), fun h => ?_⟩
  have hstate : stateOfCard p.halt id card = .executable card :=
    if_neg fun hempty => hne (KeyMap.isEmpty_iff.mp hempty.2)
  have hget : p.states.get? id = some (.executable card) := by
    rw [KeyMap.get?_eq_some_iff, hd.states, ← hstate]
    exact List.mem_map.mpr ⟨(id, card), h, rfl⟩
  rw [Program.card?, hget]
  rfl

theorem Declared.Makes.mem_symbolsRead_iff (hd : d.Makes m p) :
    c ∈ symbolsRead m ↔ p.ReadsSymbol c := by
  simp only [symbolsRead, List.mem_flatMap, Prod.exists, ← KeyMap.contains_iff_mem_keys]
  refine exists₂_congr fun id card => and_congr_left fun hread => (hd.card?_iff ?_).symm
  obtain ⟨a, ha⟩ := KeyMap.contains_iff.mp hread
  exact List.ne_nil_of_mem ha

theorem Declared.Makes.mem_symbolsWritten_iff (hd : d.Makes m p) :
    c ∈ symbolsWritten m ↔ p.WritesSymbol c := by
  simp only [symbolsWritten, List.mem_flatMap, List.mem_map, Prod.exists]
  refine exists₂_congr fun id card => ?_
  constructor
  · rintro ⟨hc, read, a, ha, hw⟩
    exact ⟨read, a, (hd.card?_iff (List.ne_nil_of_mem ha)).mpr hc,
      KeyMap.get?_eq_some_iff.mpr ha, hw⟩
  · rintro ⟨read, a, hc, ha, hw⟩
    have ha := KeyMap.get?_eq_some_iff.mp ha
    exact ⟨(hd.card?_iff (List.ne_nil_of_mem ha)).mp hc, read, a, ha, hw⟩

/-- **An alphabet that was not declared** holds the symbols that some card reads. -/
theorem Declared.Makes.contains_alphabet_iff (hd : d.Makes m p) (ha : d.alphabet = none) :
    p.alphabet.contains c = true ↔ p.ReadsSymbol c := by
  rw [hd.alphabet, ha, Option.getD_none, inferredAlphabet, KeySet.contains_ofList,
    hd.mem_symbolsRead_iff]

/-- **Markers that were not declared, nor an alphabet**, are the symbols that some card writes and
none reads. -/
theorem Declared.Makes.contains_markers_iff (hd : d.Makes m p) (ha : d.alphabet = none)
    (hm : d.markers = none) :
    p.markers.contains c = true ↔ p.WritesSymbol c ∧ ¬ p.ReadsSymbol c := by
  rw [hd.markers, hm, ha, Option.getD_none, if_neg (by simp), inferredMarkers,
    KeySet.contains_ofList, List.mem_filter, hd.mem_symbolsWritten_iff, Bool.not_eq_true',
    inferredAlphabet, ← Bool.not_eq_true, KeySet.contains_ofList, hd.mem_symbolsRead_iff]

end Format

open Format

namespace Program

variable {p : Program}

/-! ### What the checks find -/

/-- If the alphabet holds what some card reads, no card reads anything else. -/
theorem undeclaredSymbols_not_mem (h : ∀ c, p.ReadsSymbol c → p.alphabet.contains c = true)
    (id : StateId) (l : List Symbol) : .undeclaredSymbols id l ∉ p.problems := by
  intro hmem
  obtain ⟨hl, -, card, hc, hlist⟩ := mem_problems_iff_violates.mp hmem
  obtain ⟨c, hcl⟩ := List.exists_mem_of_ne_nil l hl
  obtain ⟨hread, hout⟩ := (hlist.mem_iff c).mp hcl
  exact Bool.eq_false_iff.mp hout (h c ⟨id, card, hc, hread⟩)

/-- If everything written is in the alphabet or a marker, no card writes anything else. -/
theorem undeclaredWrites_not_mem
    (h : ∀ c, p.WritesSymbol c → p.alphabet.contains c = true ∨ p.markers.contains c = true)
    (id : StateId) (l : List Symbol) : .undeclaredWrites id l ∉ p.problems := by
  intro hmem
  obtain ⟨hl, -, card, hc, hlist⟩ := mem_problems_iff_violates.mp hmem
  obtain ⟨c, hcl⟩ := List.exists_mem_of_ne_nil l hl
  obtain ⟨⟨read, a, ha, hw⟩, halphabet, hmarkers⟩ := (hlist.mem_iff c).mp hcl
  rcases h c ⟨id, card, read, a, hc, ha, hw⟩ with hin | hin
  · exact Bool.eq_false_iff.mp halphabet hin
  · exact Bool.eq_false_iff.mp hmarkers hin

/-- **What a text leaves out fits its cards.** If it declares no alphabet, no card is reported to
read an undeclared symbol, and the alphabet is reported as empty if and only if no card has an
action. If it declares no markers either, no card is reported to write an undeclared symbol, no
marker is in the alphabet, and the markers are what some card writes and none reads. -/
theorem inferred_of_ofText {s : String} {doc : Document} {p : Program}
    (hdoc : parse program (trim s.toList) = .ok doc) (hp : ofText s = .ok p)
    (ha : ¬ doc.Has .alphabet) :
    (∀ id l, .undeclaredSymbols id l ∉ p.problems) ∧
    (.emptyAlphabet ∈ p.problems ↔ ∀ id card, p.card? id = some card → card.entries = []) ∧
    (¬ doc.Has .markers →
      (∀ id l, .undeclaredWrites id l ∉ p.problems) ∧
      (∀ c, ¬ (p.alphabet.contains c = true ∧ p.markers.contains c = true)) ∧
      ∀ c, p.markers.contains c = true ↔ p.WritesSymbol c ∧ ¬ p.ReadsSymbol c) := by
  obtain ⟨-, doc', d, hdoc', hd, hp⟩ := ofText_eq_ok_iff.mp hp
  obtain rfl : doc = doc' := by
    rw [hdoc] at hdoc'
    cases hdoc'
    rfl
  obtain ⟨m, hmakes⟩ := makes_of_toProgram hp
  have htakes := (verdict_ofDocument doc).of_ok hd
  have hnone : d.alphabet = none := by
    rw [← Option.not_isSome_iff_eq_none]
    exact fun h => ha ((htakes.has .alphabet).mp h)
  have halphabet : ∀ c, p.alphabet.contains c = true ↔ p.ReadsSymbol c :=
    fun c => hmakes.contains_alphabet_iff hnone
  refine ⟨undeclaredSymbols_not_mem fun c => (halphabet c).mpr, ?_, fun hm => ?_⟩
  · rw [mem_problems_iff_violates, ← not_readsSymbol_iff]
    refine forall_congr' fun c => ?_
    rw [← Bool.not_eq_true, halphabet]
  · have hnone' : d.markers = none := by
      rw [← Option.not_isSome_iff_eq_none]
      exact fun h => hm ((htakes.has .markers).mp h)
    have hmarkers : ∀ c, p.markers.contains c = true ↔ p.WritesSymbol c ∧ ¬ p.ReadsSymbol c :=
      fun c => hmakes.contains_markers_iff hnone hnone'
    refine ⟨undeclaredWrites_not_mem fun c hw => ?_, fun c ⟨hin, hmarker⟩ => ?_, hmarkers⟩
    · rw [halphabet, hmarkers]
      by_cases hread : p.ReadsSymbol c
      · exact .inl hread
      · exact .inr ⟨hw, hread⟩
    · exact ((hmarkers c).mp hmarker).2 ((halphabet c).mp hin)

/-- A program with a card for the halting state, which alone reads `a`. -/
def haltingCard : Program where
  name := "x"
  alphabet := KeySet.ofList ['a', 'b']
  markers := KeySet.ofList ['m']
  entry := 1
  halt := 0
  states := KeyMap.ofList
    [(0, .executable (KeyMap.ofList [('a', ⟨'b', 0, 0⟩)])),
      (1, .executable (KeyMap.ofList [('b', ⟨'m', 0, 0⟩)]))]
  input := none

theorem inferred_of_ofText_haltingCard :
    ofText "name: x\ncards:\n0:\na -> b, 0, 0\n1:\nb -> m, 0, 0" = .ok haltingCard ∧
      (∃ doc, parse program (trim "name: x\ncards:\n0:\na -> b, 0, 0\n1:\nb -> m, 0, 0".toList) =
        .ok doc ∧ ¬ doc.Has .alphabet ∧ ¬ doc.Has .markers) ∧
      .haltingStateHasCard 0 ∈ haltingCard.problems ∧
      (∀ id l, .undeclaredSymbols id l ∉ haltingCard.problems) ∧
      (∀ id l, .undeclaredWrites id l ∉ haltingCard.problems) ∧
      haltingCard.WritesSymbol 'm' ∧ ¬ haltingCard.ReadsSymbol 'm' := by
  have hp : ofText "name: x\ncards:\n0:\na -> b, 0, 0\n1:\nb -> m, 0, 0" = .ok haltingCard := rfl
  obtain ⟨doc, hdoc, ha, hm⟩ : ∃ doc, parse program
      (trim "name: x\ncards:\n0:\na -> b, 0, 0\n1:\nb -> m, 0, 0".toList) = .ok doc ∧
      ¬ doc.Has .alphabet ∧ ¬ doc.Has .markers := ⟨_, rfl, by decide, by decide⟩
  obtain ⟨hreads, -, hmarkers⟩ := inferred_of_ofText hdoc hp ha
  obtain ⟨hwrites, -, hiff⟩ := hmarkers hm
  exact ⟨hp, ⟨doc, hdoc, ha, hm⟩, by decide, hreads, hwrites, (hiff 'm').mp (by decide)⟩

end Program

end CardMachine
