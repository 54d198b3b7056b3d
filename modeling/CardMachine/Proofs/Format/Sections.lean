import CardMachine.Format.Reader
import CardMachine.Proofs.Format.Words

/-! # Reading the lines of a program

The lines of a layout are read one after the other: a card takes the action lines after its header,
the cards take the cards after theirs, and each stops at a line that is none of its own. A line with
a keyword is neither an action nor a card, and no keyword starts another, so a declaration takes
exactly its own lines whatever comes after them (`reads_section`).

So reading the layout of a program gives a document that says what the program does, declaration by
declaration in the order of the text (`parse_layout`). -/

namespace CardMachine.Format

open Text (decimal isLineEnd isSpace trim)
open Grammar

variable {s z : List Char} {rest : List (List Token)} {p : Program}

/-! ### What a document says -/

/-- The lines of a card say what an entry of the state table does. -/
structure CardLines.Says (lines : CardLines) (e : StateId × State) : Prop where
  id : lines.id.value = e.1.toNat
  actions : List.Forall₂ (fun line a => line.value.Says a) lines.actions (stateActions e.2)

/-- A declaration says what the program has of its kind. -/
inductive Declaration.Says (p : Program) : Kind → Declaration → Prop where
  | name {text : List Char} (h : trim text = p.name.toList) : Says p .name (.name text)
  | alphabet : Says p .alphabet (.alphabet p.alphabet.toList)
  | markers : Says p .markers (.markers p.markers.toList)
  | entry {id : Located Nat} (h : id.value = p.entry.toNat) : Says p .entry (.entry id)
  | halt {id : Located Nat} (h : id.value = p.halt.toNat) : Says p .halt (.halt id)
  | tape {i : Preset} (hi : p.input = some i) : Says p .tape (.tape i.cells)
  | head {i : Preset} {index : Located Nat} (hi : p.input = some i)
      (h : index.value = i.head.toNat) : Says p .head (.head index)
  | cards {cards : List (Located CardLines)}
      (h : List.Forall₂ (fun c e => c.value.Says e) cards p.states.entries) :
      Says p .cards (.cards cards)

/-! ### The next line -/

theorem reads_onNextLine {α : Type} {g : Grammar Rule α} {P : α → Prop} {t : List Char}
    (hc : g.consumes = true) (hz : AtLineEnd (afterGap z)) (hg : Reads g (settle false z) P t) :
    Reads (right lineEnd.plus g) (afterGap z) P t := by
  have hne : afterGap z ≠ [] := by
    intro he
    have hlt := hg.length_lt hc
    rw [← settle_afterGap, he] at hlt
    cases hlt
  exact (reads_nextLine hz hne).right hg

theorem fails_onNextLine {α : Type} {g : Grammar Rule α} (hz : AtLineEnd (afterGap z))
    (hg : Fails g (settle false z)) : Fails (right lineEnd.plus g) (afterGap z) := by
  by_cases hne : afterGap z = []
  · rw [hne]
    exact Fails.map (Fails.both (Fails.map (Fails.both (fails_lineEnd (by simp)))))
  · exact Fails.map ((reads_nextLine hz hne).failsBoth hg)

/-! ### Items on lines of their own -/

theorem reads_endOfInput : Reads endOfInput [] (fun _ => True) [] :=
  (reads_finish.rule Rule.endOfInput).map fun _ _ => trivial

/-- An item and the line end after it, or the end of the text. -/
theorem reads_endLine {α : Type} {item : Grammar Rule α} {P : α → Prop}
    (hr : Reads item s P (afterGap z)) (hz : AtLineEnd (afterGap z)) :
    Reads (item.left (.alt lineEnd.plus.unit (.peek endOfInput))) s P (settle false z) := by
  refine hr.left (Q := fun _ => True) ?_
  by_cases hne : afterGap z = []
  · have he : settle false z = [] := by rw [← settle_afterGap, hne]; rfl
    have hn : Fails (lineEnd.plus.unit) [] := (Fails.map (Fails.both (fails_lineEnd (by simp)))).map
    rw [hne, he]
    exact .altRight hn reads_endOfInput.peek
  · exact ((reads_nextLine hz hne).map fun _ _ => trivial).altLeft

/-- A whole text of items, one after the other. -/
theorem reads_lines {α γ : Type} {item : Grammar Rule α} {R : α → γ → Prop} {l : List γ} {r : Rule}
    (hc : (item.left (.alt lineEnd.plus.unit (.peek endOfInput))).consumes = true)
    (h : Rounds (item.left (.alt lineEnd.plus.unit (.peek endOfInput))) R (settle false s) l []) :
    Reads (whole r (lines item)) s (List.Forall₂ R · l) [] := by
  have hr := h.star hc (afterGap_settle false s)
  exact (((reads_lineEnds s).right hr).left reads_endOfInput).behindGap.unplaced r

/-- A text in which something is left behind the items. -/
theorem fails_lines {α γ : Type} {item : Grammar Rule α} {R : α → γ → Prop} {l : List γ} {r : Rule}
    {t : List Char}
    (hc : (item.left (.alt lineEnd.plus.unit (.peek endOfInput))).consumes = true)
    (h : Rounds (item.left (.alt lineEnd.plus.unit (.peek endOfInput))) R (settle false s) l t)
    (ht : t ≠ []) : Fails (whole r (lines item)) s := by
  have hr := h.star hc (afterGap_settle false s)
  have hend : Fails endOfInput t := Fails.map (Fails.rule Rule.endOfInput (fails_finish ht))
  have hlines := Fails.map (f := Prod.fst) (((reads_lineEnds s).right hr).failsBoth hend)
  exact Fails.map (Fails.rule r (Fails.behindGap hlines))

/-! ### Cards -/

theorem fails_header (h : ∀ c ∈ s.head?, c.isDigit = false) : Fails card s := by
  have hid : Fails stateId s := Fails.rule Rule.stateId (Fails.map (fails_run h))
  exact Fails.rule Rule.card (Fails.map (Fails.both (Fails.map hid.both)))

/-- The actions of a card, up to a line that is no action. -/
theorem rounds_actions (hrest : ∀ z, Begins rest z → Fails action (settle false z)) :
    ∀ {l : List (Symbol × Action)} {z : List Char}, Begins (l.map actionWords ++ rest) z →
      AtLineEnd (afterGap z) → ∃ z', Rounds (right lineEnd.plus action)
        (fun line a => line.value.Says a) (afterGap z) l (afterGap z') ∧
          AtLineEnd (afterGap z') ∧ Begins rest z'
  | [], z, h, hz => ⟨z, .stop (fails_onNextLine hz (hrest z h)), hz, h⟩
  | e :: l, z, ⟨y, hs, hy, h⟩, hz => by
    have hr := reads_action hs hy
    rw [afterGap_settle] at hr
    obtain ⟨z', hl, hz', h'⟩ := rounds_actions hrest h hy
    exact ⟨z', .round (reads_onNextLine rfl hz hr) hl, hz', h'⟩

/-- A card with its actions. -/
theorem reads_card {e : StateId × State}
    (hrest : ∀ z, Begins rest z → Fails action (settle false z))
    (h : Begins (stateWords e ++ rest) z) :
    ∃ z', Reads card (settle false z) (fun c => c.value.Says e) (afterGap z') ∧
      AtLineEnd (afterGap z') ∧ Begins rest z' := by
  obtain ⟨y, hs, hy, h⟩ := h
  obtain ⟨s₁, h₁, hs⟩ := reads_numeral (crisp_decimal _) (fun _ => reads_number _) hs
    (eq_false_of_spells rfl crisp_colon)
  obtain ⟨s₂, h₂, hs⟩ := reads_token hs crisp_colon
  cases hs
  obtain ⟨z', hl, hz', h'⟩ := rounds_actions hrest h hy
  rw [afterGap_settle] at h₁
  have hparts := ((h₁.rule .stateId).left h₂).both (hl.star rfl (afterGap_afterGap y))
  refine ⟨z', ?_, hz', h'⟩
  refine (hparts.map (Q := (CardLines.Says · e)) ?_).rule .card
  rintro ⟨id, actions⟩ ⟨hid, hactions⟩
  exact ⟨hid, hactions⟩

/-- The header of a card is no action. -/
theorem fails_action_of_header {id : StateId} {ls : List (List Token)}
    (h : Begins (headerWords id :: ls) z) : Fails action (settle false z) := by
  obtain ⟨y, hs, -, -⟩ := h
  obtain ⟨c, w, hw, -⟩ := (crisp_decimal id.toNat).head
  have hd : ∀ d ∈ c :: w, d.isDigit = true := fun d hd => isDigit_of_mem_decimal (hw ▸ hd)
  have hcrisp := crisp_decimal id.toNat
  rw [headerWords, hw] at hs
  rw [hw] at hcrisp
  rw [← afterGap_settle]
  refine fails_action hs hcrisp ?_ fun d hm => ?_
  · rintro rfl; exact absurd (hd _ List.mem_cons_self) (by decide)
  · have hdd := hd d (List.mem_cons_of_mem _ hm)
    obtain ⟨h₁, h₂⟩ := isSpace_eq_false_of_isDigit hdd
    exact ⟨h₁, h₂, by rintro rfl; cases hdd⟩

/-- The lines are not those of a card. -/
def Stops (rest : List (List Token)) : Prop :=
  ∀ z, Begins rest z → Fails action (settle false z) ∧ Fails card (settle false z)

theorem rounds_cards (hrest : Stops rest) : ∀ {l : List (StateId × State)} {z : List Char},
    Begins (l.flatMap stateWords ++ rest) z → AtLineEnd (afterGap z) →
      ∃ z', Rounds (right lineEnd.plus card) (fun c e => c.value.Says e) (afterGap z) l
        (afterGap z') ∧ AtLineEnd (afterGap z') ∧ Begins rest z'
  | [], z, h, hz => ⟨z, .stop (fails_onNextLine hz (hrest z h).2), hz, h⟩
  | e :: l, z, h, hz => by
    have hnext : ∀ z, Begins (l.flatMap stateWords ++ rest) z → Fails action (settle false z) := by
      cases l with
      | nil => exact fun z h => (hrest z h).1
      | cons e' l => exact fun z h => fails_action_of_header h
    rw [List.flatMap_cons, List.append_assoc] at h
    obtain ⟨y, hr, hy, h⟩ := reads_card hnext h
    obtain ⟨z', hl, hz', h'⟩ := rounds_cards hrest h hy
    exact ⟨z', .round (reads_onNextLine rfl hz hr) hl, hz', h'⟩

/-! ### Declarations -/

theorem keyword_letters (k : Kind) : ∀ c ∈ k.keyword.toList,
    (isSpace c = false ∧ c ≠ '#' ∧ c ≠ '-') ∧ c ≠ '\'' ∧ c.isDigit = false := by
  have h : (k.keyword.toList.all fun c => !isSpace c && c != '#' && c != '-' && c != '\'' &&
      !c.isDigit) = true := by
    cases k <;> decide
  simpa [and_assoc] using h

theorem crisp_keyword (k : Kind) : Crisp k.keyword.toList := by
  refine crisp_of_forall ?_ fun c hc => ?_
  · cases k <;> decide
  · obtain ⟨⟨h₁, h₂, -⟩, -⟩ := keyword_letters k c hc
    exact ⟨h₁, h₂⟩

/-- No keyword starts another. -/
theorem keyword_unique {k k' : Kind} (h : k.keyword.toList <+: k'.keyword.toList) :
    k = k' := by
  revert h
  cases k <;> cases k' <;> decide

theorem reads_heading {k : Kind} {ts : List Token} (h : Spells (headingWords k ++ ts) s z) :
    ∃ s', Reads (heading k) (afterGap s) (fun _ => True) (afterGap s') ∧ Spells ts s' z := by
  obtain ⟨s₁, h₁, h⟩ := reads_token h (crisp_keyword k)
  obtain ⟨s₂, h₂, h⟩ := reads_token h crisp_colon
  exact ⟨s₂, h₁.left h₂, h⟩

theorem fails_heading {k k' : Kind} (hk : k ≠ k') {ts : List Token}
    (h : Spells (headingWords k' ++ ts) s z) : Fails (heading k) (afterGap s) := by
  obtain ⟨_, s', ⟨⟩, he, -⟩ := h.next (crisp_keyword k')
  refine (Fails.both (fails_word fun hp => ?_)).map
  rw [he] at hp
  rcases List.prefix_or_prefix_of_prefix hp (List.prefix_append _ _) with hp | hp
  · exact hk (keyword_unique hp)
  · exact hk (keyword_unique hp).symm

theorem fails_declared {α : Type} {k : Kind} {f : α → Declaration} {g : Grammar Rule α}
    (h : Fails (heading k) s) : Fails (declared k f g) s :=
  Fails.rule (Rule.declaration k) (Fails.map (Fails.map h.both))

theorem reads_declared {α : Type} {k : Kind} {f : α → Declaration} {g : Grammar Rule α}
    {P : α → Prop} {t : List Char} {ts : List Token} (h : Spells (headingWords k ++ ts) s z)
    (hg : ∀ s', Spells ts s' z → Reads g (afterGap s') P t) (hf : ∀ a, P a → (f a).Says p k) :
    Reads (declared k f g) (afterGap s) (fun x => x.value.Says p k) t := by
  obtain ⟨s', h₁, h⟩ := reads_heading h
  exact ((h₁.right (hg s' h)).map hf).rule (.declaration k)

/-- A line with a keyword is neither an action nor a card. -/
theorem stops_heading {k : Kind} {ts : List Token} {ls : List (List Token)} :
    Stops ((headingWords k ++ ts) :: ls) := by
  rintro z ⟨y, hs, -, -⟩
  obtain ⟨c, w, hw, -⟩ := (crisp_keyword k).head
  have hl := keyword_letters k
  have hcrisp := crisp_keyword k
  obtain ⟨_, s', ⟨⟩, he, -⟩ := hs.next hcrisp
  rw [headingWords, hw] at hs
  rw [hw] at hl hcrisp he
  rw [← afterGap_settle]
  refine ⟨fails_action hs hcrisp (hl c List.mem_cons_self).2.1
    fun d hd => (hl d (List.mem_cons_of_mem _ hd)).1, fails_header ?_⟩
  rw [he]
  rintro d ⟨⟩
  exact (hl c List.mem_cons_self).2.2

theorem stops_nil : Stops [] := by
  intro z hz
  rw [show settle false z = [] from hz]
  exact ⟨fails_action_nil, fails_header (by simp)⟩

/-- The declarations of a kind. -/
def ofKind : Kind → Grammar Rule (Located Declaration)
  | .name => declared .name .name text
  | .alphabet => declared .alphabet .alphabet symbols
  | .markers => declared .markers .markers symbols
  | .entry => declared .entry .entry stateId
  | .halt => declared .halt .halt stateId
  | .tape => declared .tape .tape symbols
  | .head => declared .head .head index
  | .cards => declared .cards .cards (right lineEnd.plus card).plus

/-- The declarations of the kinds in a list, tried in their order, and then those of one more. -/
def oneOf (last : Kind) : List Kind → Grammar Rule (Located Declaration)
  | [] => ofKind last
  | k :: ks => .alt (ofKind k) (oneOf last ks)

theorem declaration_eq : declaration =
    oneOf .cards [.name, .alphabet, .markers, .entry, .halt, .tape, .head] := rfl

theorem fails_ofKind {k : Kind} (h : Fails (heading k) s) : Fails (ofKind k) s := by
  cases k <;> exact fails_declared h

theorem fails_oneOf {last : Kind} (h : ∀ k, Fails (ofKind k) s) :
    ∀ ks : List Kind, Fails (oneOf last ks) s
  | [] => h last
  | k :: ks => (h k).alt (fails_oneOf h ks)

theorem reads_oneOf {k last : Kind} {P : Located Declaration → Prop} {t : List Char}
    (hr : Reads (ofKind k) s P t) (hf : ∀ k', k' ≠ k → Fails (heading k') s) :
    ∀ {ks : List Kind}, k ∈ ks ++ [last] → Reads (oneOf last ks) s P t
  | [], hk => by
    obtain rfl : k = last := by simpa using hk
    exact hr
  | k' :: ks, hk => by
    by_cases he : k' = k
    · subst he
      exact hr.altLeft
    · have hk : k ∈ ks ++ [last] := (List.mem_cons.mp hk).resolve_left fun h => he h.symm
      exact .altRight (fails_ofKind (hf k' he)) (reads_oneOf hr hf hk)

/-! ### The declarations of a program -/

theorem crisp_name (hp : p.Expressible) : Crisp p.name.toList := by
  refine crisp_of_trim_eq_self ?_ hp.name_trim fun c hc => (hp.name_line c hc).2.2
  exact fun h => hp.name_ne (String.toList_eq_nil_iff.mp h)

theorem sectionWords_eq (p : Program) (k : Kind) :
    ∃ ts ls, sectionWords p k = (headingWords k ++ ts) :: ls := by
  cases k with
  | cards => exact ⟨[], _, rfl⟩
  | _ => exact ⟨_, [], rfl⟩

/-- The content of a declaration on one line. -/
theorem reads_line {α : Type} {k : Kind} {f : α → Declaration} {g : Grammar Rule α} {P : α → Prop}
    {ts : List Token} (h : Begins ((headingWords k ++ ts) :: rest) z)
    (hg : ∀ s z', Spells ts s z' → AtLineEnd (afterGap z') → Reads g (afterGap s) P (afterGap z'))
    (hf : ∀ a, P a → (f a).Says p k) :
    ∃ z', Reads (declared k f g) (settle false z) (fun x => x.value.Says p k) (afterGap z') ∧
      AtLineEnd (afterGap z') ∧ Begins rest z' := by
  obtain ⟨z', hs, hz', h⟩ := h
  refine ⟨z', ?_, hz', h⟩
  rw [← afterGap_settle]
  exact reads_declared hs (fun s hs => hg s z' hs hz') hf

theorem reads_numberLine {n : Nat} {r : Rule} (s z : List Char) (h : Spells [.text (decimal n)] s z)
    (hz : AtLineEnd (afterGap z)) :
    Reads (rule r number) (afterGap s) (fun x => x.value = n) (afterGap z) := by
  obtain ⟨s', hr, hs⟩ := reads_numeral (crisp_decimal n) (fun _ => reads_number n) h
    (isDigit_eq_false_of_atLineEnd hz)
  cases hs
  exact hr.rule r

/-- **A declaration is read from its own lines**, whatever declaration comes after them. -/
theorem reads_ofKind {k : Kind} (hp : p.Expressible) (hk : writes p k = true)
    (h : Begins (sectionWords p k ++ rest) z) (hrest : Stops rest) :
    ∃ z', Reads (ofKind k) (settle false z) (fun x => x.value.Says p k) (afterGap z') ∧
      AtLineEnd (afterGap z') ∧ Begins rest z' := by
  have hcells : ∀ i ∈ p.input, i.cells ≠ [] := fun i hi => (hp.input i hi).2
  cases k with
  | name =>
    refine reads_line h (fun s z' => reads_text (crisp_name hp) fun c hc => ?_) fun v hv => .name hv
    obtain ⟨hn, hr, hc⟩ := hp.name_line c hc
    exact ⟨by simp [isLineEnd, hn, hr], hc⟩
  | alphabet =>
    have hne := KeySet.toList_ne_nil (by simpa [writes] using hk)
    exact reads_line h (fun s z' => reads_symbols hne) fun l hl => hl ▸ .alphabet
  | markers =>
    have hne := KeySet.toList_ne_nil (by simpa [writes] using hk)
    exact reads_line h (fun s z' => reads_symbols hne) fun l hl => hl ▸ .markers
  | entry => exact reads_line h reads_numberLine fun id hid => .entry hid
  | halt => exact reads_line h reads_numberLine fun id hid => .halt hid
  | tape =>
    obtain ⟨i, hi⟩ := Option.isSome_iff_exists.mp hk
    rw [sectionWords, hi] at h
    exact reads_line h (fun s z' => reads_symbols (hcells i hi)) fun l hl => hl ▸ .tape hi
  | head =>
    obtain ⟨i, hi⟩ := Option.isSome_iff_exists.mp hk
    rw [sectionWords, hi] at h
    exact reads_line h reads_numberLine fun n hn => .head hi hn
  | cards =>
    obtain ⟨y, hs, hy, h⟩ := h
    obtain ⟨z', hl, hz', h'⟩ := rounds_cards hrest h hy
    refine ⟨z', ?_, hz', h'⟩
    obtain ⟨e, l, he⟩ := List.exists_cons_of_ne_nil hp.states
    rw [he] at hl
    rw [← afterGap_settle]
    refine reads_declared (k := .cards) (show Spells (headingWords .cards ++ []) _ y from hs) ?_
      fun cards hcards => .cards (he ▸ hcards)
    intro s' hs'
    cases hs'
    exact hl.plus rfl

theorem stops_sections (p : Program) : ∀ order : List Kind, Stops (order.flatMap (sectionWords p))
  | [] => stops_nil
  | k :: order => by
    obtain ⟨ts, ls, he⟩ := sectionWords_eq p k
    rw [List.flatMap_cons, he]
    exact stops_heading

/-- A line that starts with a keyword is a declaration of that kind or none. -/
theorem reads_declaration {k : Kind} {ts : List Token} {P : Located Declaration → Prop}
    {t y : List Char} (h : Spells (headingWords k ++ ts) (settle false z) y)
    (hr : Reads (ofKind k) (settle false z) P t) : Reads declaration (settle false z) P t := by
  rw [declaration_eq]
  refine reads_oneOf hr (fun k' hne => ?_) (by cases k <;> decide)
  rw [← afterGap_settle]
  exact fails_heading hne h

/-- A declaration and the line end after it, or the end of the text. -/
theorem reads_section {k : Kind} (hp : p.Expressible) (hk : writes p k = true)
    (h : Begins (sectionWords p k ++ rest) z) (hrest : Stops rest) :
    ∃ z', Reads (declaration.left (.alt lineEnd.plus.unit (.peek endOfInput))) (settle false z)
      (fun x => x.value.Says p k) (settle false z') ∧ Begins rest z' := by
  obtain ⟨z', hr, hz', h'⟩ := reads_ofKind hp hk h hrest
  refine ⟨z', ?_, h'⟩
  obtain ⟨ts, ls, he⟩ := sectionWords_eq p k
  rw [he] at h
  obtain ⟨y, hs, -⟩ := h
  exact reads_endLine (reads_declaration hs hr) hz'

theorem rounds_sections (hp : p.Expressible) : ∀ {order : List Kind} {z : List Char},
    (∀ k ∈ order, writes p k = true) → Begins (order.flatMap (sectionWords p)) z →
      Rounds (declaration.left (.alt lineEnd.plus.unit (.peek endOfInput)))
        (fun x k => x.value.Says p k) (settle false z) order []
  | [], z, _, h => by
    rw [show settle false z = [] from h]
    refine .stop (Fails.map (Fails.both ?_))
    rw [declaration_eq]
    refine fails_oneOf (fun k => fails_ofKind (Fails.both (fails_word ?_)).map) _
    cases k <;> simp [Kind.keyword]
  | k :: order, z, hw, h => by
    rw [List.flatMap_cons] at h
    obtain ⟨z', hr, h'⟩ := reads_section hp (hw k List.mem_cons_self) h (stops_sections p order)
    exact .round hr (rounds_sections hp (fun k hk => hw k (List.mem_cons_of_mem _ hk)) h')

/-- **The lines of a program are read** as the declarations they are. -/
theorem reads_program (hp : p.Expressible) {order : List Kind} (hw : ∀ k ∈ order, writes p k = true)
    (h : Begins (order.flatMap (sectionWords p)) s) :
    Reads program s (List.Forall₂ (fun x k => x.value.Says p k) · order) [] := by
  exact reads_lines rfl (rounds_sections hp hw h)

/-- A text whose first line is no declaration is no program. -/
theorem fails_program (hd : Fails declaration (settle false s)) (hne : settle false s ≠ []) :
    Fails program s := by
  have hitem : Fails (declaration.left (.alt lineEnd.plus.unit (.peek endOfInput)))
      (settle false s) := Fails.map hd.both
  exact fails_lines (R := fun _ (_ : Unit) => True) rfl (.stop hitem) hne

/-! ### The text of a program -/

theorem crisp_symbolWords {l : List Symbol} : ∀ t ∈ symbolWords l, t.Crisp := by
  cases l with
  | nil => simp [symbolWords]
  | cons c l =>
    simp only [symbolWords, List.mem_cons, List.mem_flatMap, List.not_mem_nil, or_false]
    rintro t (rfl | ⟨d, -, rfl | rfl⟩)
    · trivial
    · exact crisp_comma
    · trivial

theorem crisp_actionWords (e : Symbol × Action) : ∀ t ∈ actionWords e, t.Crisp := by
  simp only [actionWords, List.mem_cons, List.not_mem_nil, or_false]
  rintro t (rfl | rfl | rfl | rfl | rfl | rfl | rfl)
  · trivial
  · exact crisp_arrow
  · trivial
  · exact crisp_comma
  · exact crisp_signedDecimal _
  · exact crisp_comma
  · exact crisp_decimal _

theorem wellSpaced_stateWords (e : StateId × State) : WellSpaced (stateWords e) := by
  intro l hl
  rcases List.mem_cons.mp hl with rfl | hl
  · refine ⟨by simp [headerWords], ?_⟩
    simp only [headerWords, List.mem_cons, List.not_mem_nil, or_false]
    rintro t (rfl | rfl)
    · exact crisp_decimal _
    · exact crisp_colon
  · obtain ⟨a, -, rfl⟩ := List.mem_map.mp hl
    exact ⟨by simp [actionWords], crisp_actionWords a⟩

theorem wellSpaced_line (k : Kind) {ts : List Token} (hts : ∀ t ∈ ts, t.Crisp) :
    WellSpaced [headingWords k ++ ts] := by
  intro l hl
  obtain rfl := List.mem_singleton.mp hl
  refine ⟨by simp [headingWords], ?_⟩
  simp only [headingWords, List.cons_append, List.nil_append, List.mem_cons]
  rintro t (rfl | rfl | ht)
  · exact crisp_keyword k
  · exact crisp_colon
  · exact hts t ht

theorem wellSpaced_sectionWords (hp : p.Expressible) (k : Kind) :
    WellSpaced (sectionWords p k) := by
  cases k with
  | name => exact wellSpaced_line _ (by simpa [Token.Crisp] using crisp_name hp)
  | alphabet | markers | tape => exact wellSpaced_line _ crisp_symbolWords
  | entry | halt | head => exact wellSpaced_line _ (by simpa [Token.Crisp] using crisp_decimal _)
  | cards =>
    intro l hl
    rcases List.mem_cons.mp hl with rfl | hl
    · have hcards : WellSpaced [headingWords .cards ++ []] := wellSpaced_line .cards (by simp)
      exact hcards _ (by simp)
    · obtain ⟨e, -, hl⟩ := List.mem_flatMap.mp hl
      exact wellSpaced_stateWords e l hl

/-- **A layout of a program is read** as a document that says what the program does. -/
theorem parse_layout (hp : p.Expressible) (h : p.LaidOut s) :
    ∃ doc order, parse program (trim s) = .ok doc ∧ order.Perm (kinds p) ∧
      List.Forall₂ (fun x k => x.value.Says p k) doc order := by
  obtain ⟨order, horder, hl⟩ := h
  have hw : ∀ k ∈ order, writes p k = true := fun k hk =>
    (List.mem_filter.mp (horder.mem_iff.mp hk)).2
  have hname : Kind.name ∈ order := horder.mem_iff.mpr (List.mem_filter.mpr ⟨by decide, rfl⟩)
  have hspaced : WellSpaced (order.flatMap (sectionWords p)) := by
    intro l hl
    obtain ⟨k, -, hl⟩ := List.mem_flatMap.mp hl
    exact wellSpaced_sectionWords hp k l hl
  have hb : Begins (order.flatMap (sectionWords p)) (trim s) := by
    cases order with
    | nil => cases hname
    | cons k order =>
      obtain ⟨ts, ls, he⟩ := sectionWords_eq p k
      rw [List.flatMap_cons, he] at hl hspaced ⊢
      exact begins_trim hl hspaced
  obtain ⟨doc, c, hr, hdoc, -⟩ := reads_program hp hw hb 0
  refine ⟨doc, order, ?_, horder, hdoc⟩
  rw [parse, hr]

end CardMachine.Format
