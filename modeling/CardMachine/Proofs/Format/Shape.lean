import CardMachine.Proofs.Format.Resolve
import CardMachine.Proofs.Grammar.Yields

/-! # The programs that texts give

Whatever the text, the content of a declaration is not empty and a name is on one line. So the
program that a text gives has the shape of one that has a text (`Program.Shaped`), with one
exception: the name is trimmed, and may then be empty (`expressible_of_ofText`). -/

namespace CardMachine

/-- What holds of a program that was declared: it has states, only the halting state has a
placeholder and no empty card, the tape is named after the program and has cells, the name is
trimmed and on one line, and cards with actions have an alphabet. -/
structure Program.Shaped (p : Program) : Prop where
  states : p.states.entries ≠ []
  halting : ∀ e ∈ p.states.entries, e.2 = .halting → e.1 = p.halt
  halt : ∀ e ∈ p.states.entries, e.1 = p.halt → e.2 ≠ .executable ∅
  input : ∀ i ∈ p.input, i.name = p.name ∧ i.cells ≠ []
  name_trim : Text.trim p.name.toList = p.name.toList
  name_line : ∀ c ∈ p.name.toList, c ≠ '\n' ∧ c ≠ '\r' ∧ c ≠ '#'
  alphabet : p.alphabet.entries = [] → ∀ e ∈ p.cards, e.2.entries = []

namespace Format

open Text (isLineEnd trim)
open Grammar

variable {p : Program}

/-! ### Documents -/

/-- The content of a declaration is not empty, and a name is on one line. -/
def Declaration.Filled : Declaration → Prop
  | .name w => ∀ c ∈ w, c ≠ '\n' ∧ c ≠ '\r' ∧ c ≠ '#'
  | .alphabet l | .markers l | .tape l => l ≠ []
  | .cards l => l ≠ []
  | .entry _ | .halt _ | .head _ => True

theorem yields_text {s : List Char} :
    Yields s text (fun w => ∀ c ∈ w, c ≠ '\n' ∧ c ≠ '\r' ∧ c ≠ '#') := by
  refine ((yields_run _).unplaced Rule.text).imp fun w hw c hc => ?_
  simpa [isLineEnd, and_assoc] using hw.2 c hc

theorem yields_symbols {s : List Char} : Yields s symbols (· ≠ []) :=
  Yields.unplaced Rule.symbols ((yields_any _).map fun _ _ => List.cons_ne_nil _ _)

section Declarations

variable {s : List Char} {Q : Declaration → Prop}

theorem yields_declared {α : Type} {P : α → Prop} {k : Kind} {f : α → Declaration}
    {g : Grammar Rule α} (hg : Yields s g P) (hf : ∀ a, P a → Q (f a)) :
    Yields s (declared k f g) (fun x => Q x.value) :=
  ((hg.right (heading k)).map hf).rule (Rule.declaration k)

theorem yields_oneOf (hk : ∀ k, Yields s (ofKind k) (fun x => Q x.value)) (last : Kind) :
    ∀ ks : List Kind, Yields s (oneOf last ks) (fun x => Q x.value)
  | [] => hk last
  | k :: ks => (hk k).alt (yields_oneOf hk last ks)

theorem yields_whole {α : Type} {item : Grammar Rule α} {P : α → Prop} (r : Rule)
    (hitem : Yields s item P) : Yields s (whole r (lines item)) (fun l => ∀ x ∈ l, P x) := by
  have hline := hitem.left (.alt lineEnd.plus.unit (.peek endOfInput))
  have hlines := (hline.star.right lineEnd.star).left endOfInput
  exact (((yields_any gap).seq hlines).map fun _ h => h.2).unplaced r

/-- What holds of the declarations of each kind holds of all that are read. -/
theorem yields_program (hk : ∀ k, Yields s (ofKind k) (fun x => Q x.value)) :
    Yields s program (fun doc => ∀ x ∈ doc, Q x.value) := by
  refine yields_whole .program ?_
  rw [declaration_eq]
  exact yields_oneOf hk .cards _

end Declarations

/-- The items of a whole text have what items have. -/
theorem yields_lines {α : Type} {item : Grammar Rule α} {P : α → Prop} (r : Rule)
    (hitem : ∀ s, Yields s item P) (s : List Char) (l : List α) (c : Cursor)
    (hr : (whole r (lines item)).read ⟨0, s⟩ = some (l, c)) : ∀ x ∈ l, P x :=
  yields_whole r (hitem s) _ l c (Cursor.of_start s) hr

theorem yields_filled {s : List Char} (k : Kind) :
    Yields s (ofKind k) (fun x => x.value.Filled) := by
  cases k with
  | name => exact yields_declared yields_text fun _ h => h
  | alphabet | markers | tape => exact yields_declared yields_symbols fun _ h => h
  | entry | halt | head => exact yields_declared (yields_any _) fun _ h => h
  | cards => exact yields_declared (yields_any _).plus fun _ h => h.1

theorem filled_of_parse {s : List Char} {doc : Document} (h : parse program s = .ok doc) :
    ∀ x ∈ doc, x.value.Filled := by
  obtain ⟨c, hr⟩ := parse_eq_ok_iff.mp h
  exact yields_program yields_filled _ doc c (Cursor.of_start s) hr

/-! ### Declarations -/

/-- What has been declared is not empty, and the name is trimmed and on one line. -/
structure Declared.Filled (d : Declared) : Prop where
  name : ∀ n ∈ d.name, trim n.toList = n.toList ∧ ∀ c ∈ n.toList, c ≠ '\n' ∧ c ≠ '\r' ∧ c ≠ '#'
  alphabet : ∀ a ∈ d.alphabet, a.entries ≠ []
  tape : ∀ l ∈ d.tape, l ≠ []
  cards : ∀ m ∈ d.cards, m.entries ≠ []

theorem foldlM_invariant {α β ε : Type} {f : β → α → Except ε β} {I : β → Prop} {A : α → Prop}
    (hstep : ∀ b a b', I b → A a → f b a = .ok b' → I b') :
    ∀ {l : List α} {b b' : β}, I b → (∀ a ∈ l, A a) → l.foldlM f b = .ok b' → I b'
  | [], b, b', hb, _, h => by cases h; exact hb
  | a :: l, b, b', hb, hl, h => by
    rw [List.foldlM_cons] at h
    obtain ⟨b₁, h₁, h⟩ := bind_eq_ok_iff.mp h
    exact foldlM_invariant hstep (hstep b a b₁ hb (hl a List.mem_cons_self) h₁)
      (fun x hx => hl x (List.mem_cons_of_mem _ hx)) h

theorem entries_ne_nil_of_addCard {m m' : KeyMap StateId Card} {lines : Located CardLines}
    (h : addCard m lines = .ok m') : m'.entries ≠ [] := by
  obtain ⟨id, card, -, -, -, rfl⟩ := addCard_eq_ok_iff.mp h
  exact List.ne_nil_of_mem KeyMap.mem_place_self

theorem entries_ne_nil_of_cards {l : List (Located CardLines)} {m : KeyMap StateId Card}
    (hl : l ≠ []) (h : l.foldlM addCard ∅ = .ok m) : m.entries ≠ [] := by
  obtain ⟨x, l, rfl⟩ := List.exists_cons_of_ne_nil hl
  rw [List.foldlM_cons] at h
  obtain ⟨m₁, h₁, h⟩ := bind_eq_ok_iff.mp h
  exact foldlM_invariant (I := fun m => m.entries ≠ []) (A := fun _ => True)
    (fun _ _ _ _ _ h => entries_ne_nil_of_addCard h) (entries_ne_nil_of_addCard h₁)
    (fun _ _ => trivial) h

theorem entries_ofList_ne_nil {l : List Symbol} (hl : l ≠ []) : (KeySet.ofList l).entries ≠ [] := by
  obtain ⟨c, hc⟩ := List.exists_mem_of_ne_nil l hl
  obtain ⟨a, ha⟩ := KeyMap.contains_iff.mp (KeySet.contains_ofList.mpr hc)
  exact List.ne_nil_of_mem ha

/-- Each declaration fills the field of its kind. -/
theorem Declared.Filled.set {d d' : Declared} {x : Declaration} (hd : d.Filled) (hx : x.Filled)
    (h : d.set x = .ok d') : d'.Filled := by
  cases x with
  | name w =>
    cases h
    refine { hd with name := ?_ }
    rintro n ⟨⟩
    rw [String.toList_ofList]
    exact ⟨trim_trim w, fun c hc => hx c (mem_of_mem_trim hc)⟩
  | alphabet l =>
    cases h
    refine { hd with alphabet := ?_ }
    rintro a ⟨⟩
    exact entries_ofList_ne_nil hx
  | markers l => cases h; exact { hd with }
  | entry id => obtain ⟨_, -, ⟨⟩⟩ := bind_eq_ok_iff.mp h; exact { hd with }
  | halt id => obtain ⟨_, -, ⟨⟩⟩ := bind_eq_ok_iff.mp h; exact { hd with }
  | tape l =>
    cases h
    refine { hd with tape := ?_ }
    rintro l ⟨⟩
    exact hx
  | head n => obtain ⟨_, -, ⟨⟩⟩ := bind_eq_ok_iff.mp h; exact { hd with }
  | cards l =>
    obtain ⟨m, hm, ⟨⟩⟩ := bind_eq_ok_iff.mp h
    refine { hd with cards := ?_ }
    rintro m ⟨⟩
    exact entries_ne_nil_of_cards hx hm

theorem Declared.Filled.add {d d' : Declared} {x : Located Declaration} (hd : d.Filled)
    (hx : x.value.Filled) (h : d.add x = .ok d') : d'.Filled := by
  unfold Declared.add at h
  split at h
  · cases h
  · exact hd.set hx h

theorem filled_ofDocument {doc : Document} {d : Declared} (hdoc : ∀ x ∈ doc, x.value.Filled)
    (h : Declared.ofDocument doc = .ok d) : d.Filled :=
  foldlM_invariant (fun _ _ _ hd hx h => hd.add hx h)
    ⟨fun _ h => (by cases h), fun _ h => (by cases h), fun _ h => (by cases h),
      fun _ h => (by cases h)⟩ hdoc h

/-! ### Programs -/

theorem eq_of_stateOfCard_eq_halting {halt id : StateId} {card : Card}
    (h : stateOfCard halt id card = .halting) : id = halt := by
  unfold stateOfCard at h
  split at h
  · rename_i hid; exact hid.1
  · cases h

theorem stateOfCard_halt_ne (halt : StateId) (card : Card) :
    stateOfCard halt halt card ≠ .executable ∅ := by
  unfold stateOfCard
  split
  · exact nofun
  · rename_i hne
    intro h
    cases h
    exact hne ⟨rfl, rfl⟩

theorem eq_of_card?_stateOfCard {halt id : StateId} {card card' : Card}
    (h : (stateOfCard halt id card).card? = some card') : card = card' := by
  unfold stateOfCard at h
  split at h
  · cases h
  · cases h; rfl

/-- An inferred alphabet is empty only if there are no actions. -/
theorem entries_eq_nil_of_inferredAlphabet {cards : KeyMap StateId Card}
    (h : (inferredAlphabet cards).entries = []) : ∀ e ∈ cards.entries, e.2.entries = [] := by
  intro e he
  have hread : symbolsRead cards = [] := by
    by_contra hne
    exact entries_ofList_ne_nil hne h
  exact List.map_eq_nil_iff.mp (List.flatMap_eq_nil_iff.mp hread e he)

/-- What a program takes from its declarations, whose cards are `m`. -/
structure Declared.Makes (d : Declared) (m : KeyMap StateId Card) (p : Program) : Prop where
  name : d.name = some p.name
  cards : d.cards = some m
  head : d.head.isSome = true → d.tape.isSome = true
  alphabet : p.alphabet = d.alphabet.getD (inferredAlphabet m)
  markers : p.markers = d.markers.getD (if d.alphabet.isSome then ∅ else inferredMarkers m)
  entry : p.entry = d.entry.getD Program.defaultEntry
  halt : p.halt = d.halt.getD Program.defaultHalt
  states : p.states = m.mapValues (stateOfCard p.halt)
  input : p.input = d.tape.map fun cells => { name := p.name, cells, head := d.head.getD 0 }

theorem makes_of_toProgram {d : Declared} (h : d.toProgram = .ok p) : ∃ cards, d.Makes cards p := by
  unfold Declared.toProgram at h
  split at h
  · cases h
  · cases h
  rename_i name cards hname hcards
  split at h
  · cases h
  rename_i hhead
  have hhead : d.head.isSome = true → d.tape.isSome = true := by
    cases ht : d.tape <;> simp_all
  cases h
  exact ⟨cards, hname, hcards, hhead, rfl, rfl, rfl, rfl, rfl, rfl⟩

section Makes

variable {d : Declared} {cards : KeyMap StateId Card} {e : StateId × State}

theorem Declared.Makes.state (hd : d.Makes cards p) (he : e ∈ p.states.entries) :
    ∃ card, (e.1, card) ∈ cards.entries ∧ e.2 = stateOfCard p.halt e.1 card := by
  rw [hd.states] at he
  obtain ⟨⟨id, card⟩, hc, rfl⟩ := List.mem_map.mp he
  exact ⟨card, hc, rfl⟩

/-- The cards of the program are those that were declared. -/
theorem Declared.Makes.card {x : StateId × Card} (hd : d.Makes cards p) (hx : x ∈ p.cards) :
    x ∈ cards.entries := by
  obtain ⟨e, he, hc⟩ := List.mem_filterMap.mp hx
  obtain ⟨card, hcard, hst⟩ := hd.state he
  obtain ⟨card', hc', rfl⟩ := Option.map_eq_some_iff.mp hc
  rw [hst] at hc'
  obtain rfl := eq_of_card?_stateOfCard hc'
  exact hcard

/-- An alphabet that was not declared is inferred, and empty only if no card has an action. -/
theorem Declared.Makes.actions_eq_nil (hd : d.Makes cards p) (hf : d.Filled)
    (ha : p.alphabet.entries = []) : ∀ e ∈ p.cards, e.2.entries = [] := by
  rw [hd.alphabet] at ha
  cases hdeclared : d.alphabet with
  | some a =>
    rw [hdeclared] at ha
    exact absurd ha (hf.alphabet a hdeclared)
  | none =>
    rw [hdeclared] at ha
    exact fun e he => entries_eq_nil_of_inferredAlphabet ha e (hd.card he)

/-- With an empty alphabet there are no markers but those that were declared. -/
theorem Declared.Makes.markers_eq_nil (hd : d.Makes cards p) (ha : p.alphabet.entries = [])
    (hm : d.markers = none) : p.markers.entries = [] := by
  rw [hd.alphabet] at ha
  rw [hd.markers, hm]
  cases hdeclared : d.alphabet with
  | some a => rfl
  | none =>
    rw [hdeclared] at ha
    rw [Option.getD_none, if_neg (by simp),
      inferredMarkers_eq (entries_eq_nil_of_inferredAlphabet ha)]
    rfl

/-- **A program that was declared has the shape of one.** -/
theorem Declared.Makes.shaped (hd : d.Makes cards p) (hf : d.Filled) : p.Shaped where
  states := by
    rw [hd.states]
    exact fun h => hf.cards cards hd.cards (List.map_eq_nil_iff.mp h)
  halting e he hhalt := by
    obtain ⟨card, -, hst⟩ := hd.state he
    exact eq_of_stateOfCard_eq_halting (hst.symm.trans hhalt)
  halt e he hid := by
    obtain ⟨card, -, hst⟩ := hd.state he
    rw [hst, hid]
    exact stateOfCard_halt_ne _ card
  input i hi := by
    rw [hd.input] at hi
    obtain ⟨cells, hcells, rfl⟩ := Option.map_eq_some_iff.mp hi
    exact ⟨rfl, hf.tape cells hcells⟩
  name_trim := (hf.name p.name hd.name).1
  name_line := (hf.name p.name hd.name).2
  alphabet := hd.actions_eq_nil hf

end Makes

/-- A program with that shape has a text, unless its name is empty. -/
theorem expressible_of_shaped (hp : p.Shaped) (hn : p.name ≠ "") : p.Expressible where
  name_ne := hn
  name_trim := hp.name_trim
  name_line := hp.name_line
  states := hp.states
  halting := hp.halting
  halt := hp.halt
  alphabet := Classical.or_iff_not_imp_left.mpr fun h => hp.alphabet (Classical.not_not.mp h)
  input := hp.input

/-- **A program that was read has a text**, unless its name is empty. -/
theorem expressible_of_ofText {s : String} (h : Program.ofText s = .ok p) (hn : p.name ≠ "") :
    p.Expressible := by
  obtain ⟨-, doc, d, hdoc, hd, hp⟩ := ofText_eq_ok_iff.mp h
  obtain ⟨cards, hmakes⟩ := makes_of_toProgram hp
  exact expressible_of_shaped (hmakes.shaped (filled_ofDocument (filled_of_parse hdoc) hd)) hn

end Format

end CardMachine
