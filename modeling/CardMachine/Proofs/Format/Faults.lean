import CardMachine.Proofs.Format.Resolve

/-! # The faults of a document

A document is refused for its first fault. Here the faults of a document are listed without stopping
at the first one: each declaration, card and action line is judged by itself and by what stands
before it, in the order of the text (`judge`). Of a declaration it is asked first whether its kind
was declared before, then what it holds; of a card, whether its number is in range, whether it was
given before, then its actions; of an action, whether its step and its next state are in range, then
whether its symbol was read before.

`Verdict faults x P` says that `x` is refused for the first of the faults, and is a value with the
property `P` if there are none. Verdicts go through `do` blocks (`Verdict.bind`) and folds
(`verdict_foldlM`), so what is said of a document is put together as reading it is. -/

namespace CardMachine.Format

open Grammar (Located)

/-! ### Verdicts -/

section Verdicts

variable {ε α β σ : Type} {l l' : List ε} {x : Except ε α} {P : α → Prop} {Q : β → Prop}

/-- The first of the faults, or without faults a value with the property. -/
def Verdict (l : List ε) (x : Except ε α) (P : α → Prop) : Prop :=
  match l with
  | [] => ∃ a, x = .ok a ∧ P a
  | e :: _ => x = .error e

theorem verdict_ok {a : α} (ha : P a) : Verdict ([] : List ε) (.ok a) P := ⟨a, rfl, ha⟩

theorem Verdict.bind {f : α → Except ε β} (hx : Verdict l x P)
    (hf : ∀ a, P a → Verdict l' (f a) Q) : Verdict (l ++ l') (x >>= f) Q := by
  cases l with
  | nil =>
    obtain ⟨a, rfl, ha⟩ := hx
    exact hf a ha
  | cons e l =>
    cases (hx : x = .error e)
    rfl

theorem Verdict.imp {P' : α → Prop} (hx : Verdict l x P) (hP : ∀ a, P a → P' a) :
    Verdict l x P' := by
  cases l with
  | nil =>
    obtain ⟨a, ha, hPa⟩ := hx
    exact ⟨a, ha, hP a hPa⟩
  | cons e l => exact hx

/-- The value is changed after the last check. -/
theorem Verdict.map {f : α → β} (hx : Verdict l x P) (hf : ∀ a, P a → Q (f a)) :
    Verdict l (x >>= fun a => .ok (f a)) Q := by
  rw [← List.append_nil l]
  exact hx.bind fun a ha => verdict_ok (hf a ha)

/-- A check before the others. -/
theorem verdict_check {b : Bool} {c : Prop} [Decidable c] {e : ε} (hb : b = true ↔ c)
    (hx : ¬c → Verdict l x P) :
    Verdict ((if c then [e] else []) ++ l) (if b = true then .error e else x) P := by
  by_cases hc : c
  · rw [if_pos hc, if_pos (hb.mpr hc)]
    rfl
  · rw [if_neg hc, if_neg (mt hb.mp hc)]
    exact hx hc

/-- A check after all others. -/
theorem verdict_lastCheck {b : Bool} {c : Prop} [Decidable c] {e : ε} {a : α} (hb : b = true ↔ c)
    (ha : ¬c → P a) :
    Verdict (if c then [e] else []) (if b = true then .error e else .ok a) P := by
  rw [← List.append_nil (if c then [e] else [])]
  exact verdict_check hb fun hc => verdict_ok (ha hc)

theorem Verdict.mapError {ε' : Type} (f : ε → ε') (hx : Verdict l x P) :
    Verdict (l.map f) (x.mapError f) P := by
  cases l with
  | nil =>
    obtain ⟨a, rfl, ha⟩ := hx
    exact ⟨a, rfl, ha⟩
  | cons e l =>
    cases (hx : x = .error e)
    rfl

/-- **There is a value if and only if there are no faults.** -/
theorem Verdict.exists_ok_iff (hx : Verdict l x P) : (∃ a, x = .ok a) ↔ l = [] := by
  cases l with
  | nil =>
    obtain ⟨a, ha, -⟩ := hx
    exact ⟨fun _ => rfl, fun _ => ⟨a, ha⟩⟩
  | cons e l =>
    cases (hx : x = .error e)
    exact ⟨nofun, nofun⟩

theorem Verdict.of_ok {a : α} (hx : Verdict l x P) (ha : x = .ok a) : P a := by
  have hl := hx.exists_ok_iff.mp ⟨a, ha⟩
  subst hl
  obtain ⟨b, hb, hP⟩ := hx
  cases ha.symm.trans hb
  exact hP

theorem Verdict.exists_error (hx : Verdict l x P) (hl : l ≠ []) :
    ∃ e, l.head? = some e ∧ x = .error e := by
  cases l with
  | nil => exact absurd rfl hl
  | cons e l => exact ⟨e, rfl, hx⟩

/-- The faults of the items of a list one after the other, each judged with the items before it. -/
def judge (f : List α → α → List ε) : (before : List α) → List α → List ε
  | _, [] => []
  | before, x :: l => f before x ++ judge f (before ++ [x]) l

/-- **A fold is refused for the first fault of its items**, if each step is. The invariant speaks of
the items that were taken up. -/
theorem verdict_foldlM {step : σ → α → Except ε σ} {f : List α → α → List ε}
    {I : List α → σ → Prop}
    (hstep : ∀ before s x, I before s → Verdict (f before x) (step s x) (I (before ++ [x]))) :
    ∀ (items before : List α) (s : σ), I before s →
      Verdict (judge f before items) (items.foldlM step s) (I (before ++ items))
  | [], before, s, hs => by
    rw [List.append_nil]
    exact verdict_ok hs
  | x :: items, before, s, hs => by
    have ih := verdict_foldlM hstep items (before ++ [x])
    rw [List.append_assoc, List.singleton_append] at ih
    rw [List.foldlM_cons]
    exact (hstep before s x hs).bind ih

end Verdicts

/-! ### Faults -/

/-- The number of a state must be a word of 32 bits. -/
def stateFaults (n : Located Nat) : List (Located Fault) :=
  if n.value < UInt32.size then [] else [⟨.stateOutOfRange, n.span⟩]

/-- A displacement must be a signed word of 64 bits. -/
def stepFaults (i : Located Int) : List (Located Fault) :=
  if Int64.minValue.toInt ≤ i.value ∧ i.value ≤ Int64.maxValue.toInt then []
  else [⟨.stepOutOfRange, i.span⟩]

/-- A head position must be a word of 64 bits. -/
def headFaults (n : Located Nat) : List (Located Fault) :=
  if n.value < UInt64.size then [] else [⟨.headOutOfRange, n.span⟩]

/-- The faults of an action line of the card of state `id`. -/
def actionFaults (id : StateId) (before : List (Located ActionLine)) (line : Located ActionLine) :
    List (Located Fault) :=
  stepFaults line.value.step ++ stateFaults line.value.next ++
    if ∃ x ∈ before, x.value.read = line.value.read
    then [⟨.repeatedAction line.value.read id, line.span⟩] else []

/-- The faults of a card. -/
def cardFaults (before : List (Located CardLines)) (card : Located CardLines) :
    List (Located Fault) :=
  let id : StateId := .ofNat card.value.id.value
  stateFaults card.value.id ++
    (if ∃ x ∈ before, x.value.id.value = card.value.id.value
      then [⟨.repeatedCard id, card.span⟩] else []) ++
    judge (actionFaults id) [] card.value.actions

/-- The faults of what a declaration holds. -/
def Declaration.faults : Declaration → List (Located Fault)
  | .entry id | .halt id => stateFaults id
  | .head index => headFaults index
  | .cards cs => judge cardFaults [] cs
  | .name _ | .alphabet _ | .markers _ | .tape _ => []

/-- Whether a document declares something of a kind. -/
def Document.Has (doc : Document) (k : Kind) : Prop := ∃ x ∈ doc, x.value.kind = k

instance (doc : Document) (k : Kind) : Decidable (doc.Has k) :=
  inferInstanceAs (Decidable (∃ x ∈ doc, x.value.kind = k))

/-- The faults of a declaration. -/
def declarationFaults (before : Document) (x : Located Declaration) : List (Located Fault) :=
  (if before.Has x.value.kind then [⟨.repeatedDeclaration x.value.kind, x.span⟩] else []) ++
    x.value.faults

/-- The faults of a document. -/
def Document.faults (doc : Document) : List (Located Fault) := judge declarationFaults [] doc

/-! ### Numbers in range -/

theorem verdict_inRange {α β : Type} {convert : α → Option β} {fault : Fault} {n : Located α}
    {c : Prop} [Decidable c] (hc : (convert n.value).isSome = true ↔ c) :
    Verdict (if c then [] else [⟨fault, n.span⟩]) (inRange convert fault n)
      (fun b => convert n.value = some b) := by
  unfold inRange
  cases hn : convert n.value with
  | none =>
    rw [if_neg (by rw [← hc, hn]; simp)]
    rfl
  | some b =>
    rw [if_pos (by rw [← hc, hn]; rfl)]
    exact verdict_ok rfl

theorem verdict_stateInRange (n : Located Nat) :
    Verdict (stateFaults n) (stateInRange n) (fun id => n.value = id.toNat) := by
  refine (verdict_inRange ?_).imp fun id => word32?_eq_some_iff.mp
  unfold Text.word32?
  split <;> simp_all

theorem verdict_stepInRange (i : Located Int) :
    Verdict (stepFaults i) (stepInRange i) (fun step => i.value = step.toInt) := by
  refine (verdict_inRange ?_).imp fun step => signed64?_eq_some_iff.mp
  unfold Text.signed64?
  split <;> simp_all

theorem verdict_headInRange (n : Located Nat) :
    Verdict (headFaults n) (headInRange n) (fun head => n.value = head.toNat) := by
  refine (verdict_inRange ?_).imp fun head => word64?_eq_some_iff.mp
  unfold Text.word64?
  split <;> simp_all

/-! ### Cards -/

section Lists

variable {κ α β : Type} [Key κ] {R : β → κ × α → Prop} {items : List β} {m : KeyMap κ α}

/-- The entries of the map are what the items say, one for each item. -/
def Lists (R : β → κ × α → Prop) (items : List β) (m : KeyMap κ α) : Prop :=
  ∃ l, List.Forall₂ R items l ∧ l.Perm m.entries

theorem lists_nil : Lists R [] (∅ : KeyMap κ α) := ⟨[], .nil, .refl _⟩

theorem Lists.insert {x : β} {k : κ} {a : α} (h : Lists R items m) (hx : R x (k, a))
    (hk : m.contains k = false) : Lists R (items ++ [x]) (m.insert k a) := by
  obtain ⟨l, hl, hp⟩ := h
  refine ⟨l ++ [(k, a)], List.rel_append hl (.cons hx .nil), ?_⟩
  have hadd : (l ++ [(k, a)]).Perm ((k, a) :: m.entries) :=
    (List.perm_append_singleton _ _).trans (hp.cons _)
  exact hadd.trans (KeyMap.perm_insert hk).symm

/-- A key is in the map if some item has it. -/
theorem Lists.contains_iff {S : β → κ → Prop} (h : Lists R items m)
    (hR : ∀ x e k, R x e → (S x k ↔ e.1 = k)) (k : κ) :
    m.contains k = true ↔ ∃ x ∈ items, S x k := by
  obtain ⟨l, hl, hp⟩ := h
  have hmem : m.contains k = true ↔ ∃ e ∈ l, e.1 = k := by
    rw [KeyMap.contains_iff_mem_keys, KeyMap.keys, List.mem_map]
    simp only [hp.mem_iff]
  rw [hmem]
  clear hp hmem
  induction hl with
  | nil => simp
  | cons hx _ ih => simp only [List.exists_mem_cons_iff, ih, hR _ _ k hx]

end Lists

/-- The lines of a card give a state and its actions, one for each action line. -/
structure CardLines.Gives (lines : CardLines) (e : StateId × Card) : Prop where
  id : lines.id.value = e.1.toNat
  actions : Lists (fun line a => line.value.Says a) lines.actions e.2

theorem verdict_addAction (id : StateId) (before : List (Located ActionLine)) (card : Card)
    (line : Located ActionLine)
    (h : Lists (fun line a => line.value.Says a) before card) :
    Verdict (actionFaults id before line) (addAction id card line)
      (Lists (fun line a => line.value.Says a) (before ++ [line])) := by
  have hread := h.contains_iff (S := fun x c => x.value.read = c)
    (fun x e c hx => by rw [hx.read]) line.value.read
  rw [actionFaults, List.append_assoc]
  refine (verdict_stepInRange _).bind fun step hstep => ?_
  refine (verdict_stateInRange _).bind fun next hnext => ?_
  refine verdict_lastCheck hread fun hnew => h.insert ⟨rfl, rfl, hstep, hnext⟩ ?_
  rw [← Bool.not_eq_true, hread]
  exact hnew

theorem verdict_addCard (before : List (Located CardLines)) (cards : KeyMap StateId Card)
    (lines : Located CardLines) (h : Lists (fun c e => c.value.Gives e) before cards) :
    Verdict (cardFaults before lines) (addCard cards lines)
      (Lists (fun c e => c.value.Gives e) (before ++ [lines])) := by
  rw [cardFaults, List.append_assoc]
  refine (verdict_stateInRange _).bind fun id hid => ?_
  have hof : UInt32.ofNat lines.value.id.value = id := by rw [hid, UInt32.ofNat_toNat]
  have hcard := h.contains_iff (S := fun x k => x.value.id.value = k.toNat)
    (fun x e k hx => by rw [hx.id, UInt32.toNat_inj]) id
  rw [← hid] at hcard
  rw [hof]
  refine verdict_check hcard fun hnew => ?_
  refine (verdict_foldlM (verdict_addAction id) _ [] ∅ lists_nil).map fun card hactions => ?_
  refine h.insert ⟨hid, hactions⟩ ?_
  rw [← Bool.not_eq_true, hcard]
  exact hnew

/-! ### Declarations -/

/-- What has been declared, of the kinds and of the cards. -/
structure Declared.Takes (before : Document) (d : Declared) : Prop where
  has : ∀ k, d.has k = true ↔ before.Has k
  cards : ∀ m, d.cards = some m →
    ∃ y ∈ before, ∃ cs, y.value = .cards cs ∧ Lists (fun c e => c.value.Gives e) cs m

/-- What a declaration adds: its kind, and the cards if it holds them. -/
structure Declared.Adds (d d' : Declared) (x : Declaration) : Prop where
  has : ∀ k, d'.has k = true ↔ d.has k = true ∨ x.kind = k
  cards : ∀ m, d'.cards = some m →
    d.cards = some m ∨ ∃ cs, x = .cards cs ∧ Lists (fun c e => c.value.Gives e) cs m

theorem Declared.verdict_set (d : Declared) (x : Declaration) :
    Verdict x.faults (d.set x) (d.Adds · x) := by
  -- only the field of the declaration's kind changes
  cases x with
  | name _ | alphabet _ | markers _ | tape _ =>
    refine verdict_ok ?_
    exact ⟨fun k => by cases k <;> simp [has, Declaration.kind], fun _ => .inl⟩
  | entry id =>
    refine (verdict_stateInRange id).map (f := fun id => { d with entry := some id }) ?_
    exact fun _ _ => ⟨fun k => by cases k <;> simp [has, Declaration.kind], fun _ => .inl⟩
  | halt id =>
    refine (verdict_stateInRange id).map (f := fun id => { d with halt := some id }) ?_
    exact fun _ _ => ⟨fun k => by cases k <;> simp [has, Declaration.kind], fun _ => .inl⟩
  | head n =>
    refine (verdict_headInRange n).map (f := fun head => { d with head := some head }) ?_
    exact fun _ _ => ⟨fun k => by cases k <;> simp [has, Declaration.kind], fun _ => .inl⟩
  | cards cs =>
    refine (verdict_foldlM verdict_addCard cs [] ∅ lists_nil).map
      (f := fun m => { d with cards := some m }) ?_
    refine fun m hm => ⟨fun k => by cases k <;> simp [has, Declaration.kind], ?_⟩
    rintro m' ⟨⟩
    exact .inr ⟨cs, rfl, hm⟩

theorem Declared.verdict_add (before : Document) (d : Declared) (x : Located Declaration)
    (h : d.Takes before) :
    Verdict (declarationFaults before x) (d.add x) (Declared.Takes (before ++ [x])) := by
  refine verdict_check (h.has x.value.kind) fun _ => ?_
  refine (d.verdict_set x.value).imp fun d' hd' => ⟨fun k => ?_, fun m hm => ?_⟩
  · rw [hd'.has, h.has]
    simp [Document.Has, or_and_right, exists_or]
  · rcases hd'.cards m hm with hm | ⟨cs, hx, hcs⟩
    · obtain ⟨y, hy, hcs⟩ := h.cards m hm
      exact ⟨y, List.mem_append_left _ hy, hcs⟩
    · exact ⟨x, List.mem_append_right _ (List.mem_singleton.mpr rfl), cs, hx, hcs⟩

/-- **A document is refused for its first fault**, and taken up if it has none. -/
theorem verdict_ofDocument (doc : Document) :
    Verdict doc.faults (Declared.ofDocument doc) (Declared.Takes doc) := by
  have hstart : Declared.Takes [] {} := by
    refine ⟨fun k => ?_, fun m hm => by cases hm⟩
    cases k <;> simp [Declared.has, Document.Has]
  exact verdict_foldlM Declared.verdict_add doc [] {} hstart

end CardMachine.Format
