import CardMachine.Format.Resolve
import CardMachine.Proofs.Format.Sections
import CardMachine.Proofs.KeyMap

/-! # A document that says what a program does

A document gives the program back that it speaks of. Its numbers are in range since they were words
of the right size to begin with; its cards and actions come in increasing order, so each is new and
goes to the end of its map (`foldlM_insert`); its declarations may come in any order, since each sets
a field of its own (`Declared.set_says`). What is left out is inferred as it was. -/

namespace CardMachine.Format

open Text (word32? word64? signed64? trim)
open Grammar (Located)

variable {p : Program}

/-! ### Numbers in range -/

theorem word32?_eq_some_iff {n : Nat} {w : UInt32} : word32? n = some w ↔ n = w.toNat := by
  unfold word32?
  constructor
  · intro h
    split at h
    · rename_i hn
      cases h
      exact (UInt32.toNat_ofNat_of_lt hn).symm
    · cases h
  · rintro rfl
    rw [if_pos w.toNat_lt, UInt32.ofNat_toNat]

theorem word64?_eq_some_iff {n : Nat} {w : UInt64} : word64? n = some w ↔ n = w.toNat := by
  unfold word64?
  constructor
  · intro h
    split at h
    · rename_i hn
      cases h
      exact (UInt64.toNat_ofNat_of_lt hn).symm
    · cases h
  · rintro rfl
    rw [if_pos w.toNat_lt, UInt64.ofNat_toNat]

theorem signed64?_eq_some_iff {i : Int} {w : Int64} : signed64? i = some w ↔ i = w.toInt := by
  unfold signed64?
  constructor
  · intro h
    split at h
    · rename_i hi
      cases h
      exact (Int64.toInt_ofInt_of_le hi.1 (Int.lt_of_le_of_lt hi.2 (by decide))).symm
    · cases h
  · rintro rfl
    rw [if_pos ⟨w.minValue_le_toInt, w.toInt_le⟩, Int64.ofInt_toInt]

theorem inRange_eq_ok_iff {α β : Type} {convert : α → Option β} {fault : Fault} {n : Located α}
    {b : β} : inRange convert fault n = .ok b ↔ convert n.value = some b := by
  unfold inRange
  split <;> simp_all

theorem bind_eq_ok_iff {ε α β : Type} {x : Except ε α} {f : α → Except ε β} {b : β} :
    x >>= f = .ok b ↔ ∃ a, x = .ok a ∧ f a = .ok b := by
  cases x with
  | error e => exact ⟨nofun, fun ⟨a, h, _⟩ => nomatch h⟩
  | ok a => exact ⟨fun h => ⟨a, rfl, h⟩, fun ⟨a', h, hb⟩ => by cases h; exact hb⟩

theorem stateInRange_eq_ok_iff {n : Located Nat} {id : StateId} :
    stateInRange n = .ok id ↔ n.value = id.toNat := inRange_eq_ok_iff.trans word32?_eq_some_iff

theorem stepInRange_eq_ok_iff {i : Located Int} {step : Int64} :
    stepInRange i = .ok step ↔ i.value = step.toInt := inRange_eq_ok_iff.trans signed64?_eq_some_iff

theorem headInRange_eq_ok_iff {n : Located Nat} {head : UInt64} :
    headInRange n = .ok head ↔ n.value = head.toNat := inRange_eq_ok_iff.trans word64?_eq_some_iff

/-! ### Cards -/

/-- An action is added if it is the first of its symbol. -/
theorem addAction_eq_ok_iff {id : StateId} {card card' : Card} {line : Located ActionLine} :
    addAction id card line = .ok card' ↔ ∃ a, line.value.Says (line.value.read, a) ∧
      card.contains line.value.read = false ∧ card' = card.insert line.value.read a := by
  simp only [addAction, bind_eq_ok_iff, stepInRange_eq_ok_iff, stateInRange_eq_ok_iff]
  constructor
  · rintro ⟨step, hstep, next, hnext, h⟩
    split at h
    · cases h
    · rename_i hnew
      cases h
      exact ⟨_, ⟨rfl, rfl, hstep, hnext⟩, by simpa using hnew, rfl⟩
  · rintro ⟨a, ⟨-, hwrite, hstep, hnext⟩, hnew, rfl⟩
    refine ⟨a.step, hstep, a.next, hnext, ?_⟩
    rw [hnew, hwrite]
    rfl

/-- A card is added if it is the first of its state. -/
theorem addCard_eq_ok_iff {cards cards' : KeyMap StateId Card} {lines : Located CardLines} :
    addCard cards lines = .ok cards' ↔ ∃ id card, lines.value.id.value = id.toNat ∧
      cards.contains id = false ∧ lines.value.actions.foldlM (addAction id) ∅ = .ok card ∧
      cards' = cards.insert id card := by
  simp only [addCard, bind_eq_ok_iff, stateInRange_eq_ok_iff]
  constructor
  · rintro ⟨id, hid, h⟩
    split at h
    · cases h
    · rename_i hnew
      obtain ⟨card, hcard, h⟩ := bind_eq_ok_iff.mp h
      cases h
      exact ⟨id, card, hid, by simpa using hnew, hcard, rfl⟩
  · rintro ⟨id, card, hid, hnew, hcard, rfl⟩
    refine ⟨id, hid, ?_⟩
    rw [hnew, if_neg (by simp)]
    exact bind_eq_ok_iff.mpr ⟨card, hcard, rfl⟩

/-- Entries that come in increasing order are all new, and make up the map. -/
theorem foldlM_insert {κ α β ε : Type} [Key κ] {f : KeyMap κ α → β → Except ε (KeyMap κ α)}
    {R : β → κ × α → Prop}
    (hf : ∀ m b e, R b e → m.contains e.1 = false → f m b = .ok (m.insert e.1 e.2))
    {bs : List β} {l : List (κ × α)} (h : List.Forall₂ R bs l) :
    ∀ m : KeyMap κ α, Increasing (m.entries ++ l) →
      ∃ m', bs.foldlM f m = .ok m' ∧ m'.entries = m.entries ++ l := by
  induction h with
  | nil => intro m _; exact ⟨m, rfl, (List.append_nil _).symm⟩
  | @cons b e bs l hb _ ih =>
    intro m hm
    have hlt : ∀ x ∈ m.entries, Key.rank x.1 < Key.rank e.1 := fun x hx =>
      (List.pairwise_append.mp hm).2.2 x hx e List.mem_cons_self
    have hnew : m.contains e.1 = false := by
      rw [← Bool.not_eq_true, KeyMap.contains_iff]
      rintro ⟨a, ha⟩
      exact absurd (hlt _ ha) (Nat.lt_irrefl _)
    have he : (m.insert e.1 e.2).entries = m.entries ++ [e] := KeyMap.place_of_forall_lt hlt
    obtain ⟨m', hm', hl⟩ := ih (m.insert e.1 e.2) (by rw [he]; simpa using hm)
    refine ⟨m', ?_, by rw [hl, he]; simp⟩
    rw [List.foldlM_cons, hf m b e hb hnew]
    exact hm'

theorem foldlM_addAction {id : StateId} {card : Card} {lines : List (Located ActionLine)}
    (h : List.Forall₂ (fun line a => line.value.Says a) lines card.entries) :
    lines.foldlM (addAction id) ∅ = .ok card := by
  have hf : ∀ (m : Card) (line : Located ActionLine) (e : Symbol × Action), line.value.Says e →
      m.contains e.1 = false → addAction id m line = .ok (m.insert e.1 e.2) := by
    intro m line e hline hnew
    refine addAction_eq_ok_iff.mpr ⟨e.2, ?_, ?_, ?_⟩
    · exact ⟨rfl, hline.write, hline.step, hline.next⟩
    · rwa [hline.read]
    · rw [hline.read]
  obtain ⟨card', hc, he⟩ := foldlM_insert hf h ∅ card.increasing
  rw [hc, KeyMap.ext he]

/-- The card that a state is written as. -/
def cardOf : State → Card
  | .halting => ∅
  | .executable card => card

theorem entries_cardOf (st : State) : (cardOf st).entries = stateActions st := by
  cases st <;> rfl

theorem foldlM_addCard {cards : List (Located CardLines)}
    (h : List.Forall₂ (fun c e => c.value.Says e) cards p.states.entries) :
    cards.foldlM addCard ∅ = .ok (p.states.mapValues fun _ => cardOf) := by
  have hmap : List.Forall₂ (fun (c : Located CardLines) e => c.value.id.value = e.1.toNat ∧
      List.Forall₂ (fun line a => line.value.Says a) c.value.actions e.2.entries) cards
      (p.states.mapValues fun _ => cardOf).entries := by
    refine List.forall₂_map_right_iff.mpr (h.imp fun c e hce => ⟨hce.id, ?_⟩)
    rw [entries_cardOf]
    exact hce.actions
  obtain ⟨cards', hc, he⟩ := foldlM_insert (f := addCard)
    (fun m c e hce hnew => addCard_eq_ok_iff.mpr
      ⟨e.1, e.2, hce.1, hnew, foldlM_addAction hce.2, rfl⟩)
    hmap ∅ (p.states.mapValues fun _ => cardOf).increasing
  rw [hc, KeyMap.ext he]

/-! ### Declarations -/

/-- What the declarations of some kinds say of a program. -/
def Declared.ofKinds (p : Program) (ks : List Kind) : Declared where
  name := if .name ∈ ks then some p.name else none
  alphabet := if .alphabet ∈ ks then some p.alphabet else none
  markers := if .markers ∈ ks then some p.markers else none
  entry := if .entry ∈ ks then some p.entry else none
  halt := if .halt ∈ ks then some p.halt else none
  tape := if .tape ∈ ks then p.input.map Preset.cells else none
  head := if .head ∈ ks then p.input.map Preset.head else none
  cards := if .cards ∈ ks then some (p.states.mapValues fun _ => cardOf) else none

theorem Declaration.Says.kind_eq {k : Kind} {d : Declaration} (h : d.Says p k) : d.kind = k := by
  cases h <;> rfl

theorem Declared.has_ofKinds {ks : List Kind} {k : Kind} (hk : k ∉ ks) :
    (ofKinds p ks).has k = false := by
  cases k <;> simp [has, ofKinds, hk]

/-- A declaration sets the field of its kind to what the program has there. -/
theorem Declared.set_says {ks : List Kind} {k : Kind} {d : Declaration} (h : d.Says p k) :
    (ofKinds p ks).set d = .ok (ofKinds p (k :: ks)) := by
  cases h with
  | name h => simp [set, ofKinds, h]
  | alphabet => simp [set, ofKinds, KeySet.ofList_toList]
  | markers => simp [set, ofKinds, KeySet.ofList_toList]
  | entry h => simp [set, ofKinds, stateInRange_eq_ok_iff.mpr h]
  | halt h => simp [set, ofKinds, stateInRange_eq_ok_iff.mpr h]
  | tape hi => simp [set, ofKinds, hi]
  | head hi h => simp [set, ofKinds, hi, headInRange_eq_ok_iff.mpr h]
  | cards h => simp [set, ofKinds, foldlM_addCard h]

theorem Declared.add_says {ks : List Kind} {k : Kind} {x : Located Declaration}
    (hx : x.value.Says p k) (hk : k ∉ ks) :
    (ofKinds p ks).add x = .ok (ofKinds p (k :: ks)) := by
  unfold add
  rw [hx.kind_eq, has_ofKinds hk]
  exact set_says hx

theorem Declared.ofKinds_congr {ks ks' : List Kind} (h : ∀ k, k ∈ ks ↔ k ∈ ks') :
    ofKinds p ks = ofKinds p ks' := by
  simp only [ofKinds, h]

theorem foldlM_says {doc : Document} {order : List Kind}
    (h : List.Forall₂ (fun x k => x.value.Says p k) doc order) :
    ∀ ks : List Kind, (order.reverse ++ ks).Nodup →
      doc.foldlM Declared.add (.ofKinds p ks) = .ok (.ofKinds p (order.reverse ++ ks)) := by
  induction h with
  | nil => exact fun ks _ => rfl
  | @cons x k doc order hx _ ih =>
    intro ks hn
    rw [List.reverse_cons, List.append_assoc, List.singleton_append] at hn ⊢
    have hk : k ∉ ks := (List.nodup_cons.mp (List.nodup_append.mp hn).2.1).1
    rw [List.foldlM_cons, Declared.add_says hx hk]
    exact ih (k :: ks) hn

theorem mem_kinds {k : Kind} : k ∈ kinds p ↔ writes p k = true := by
  have : k ∈ Kind.all := by cases k <;> decide
  simp [kinds, this]

/-- What a program declares. -/
def Declared.ofProgram (p : Program) : Declared where
  name := some p.name
  alphabet := if p.alphabet.isEmpty then none else some p.alphabet
  markers := if p.markers.isEmpty then none else some p.markers
  entry := some p.entry
  halt := some p.halt
  tape := p.input.map Preset.cells
  head := p.input.map Preset.head
  cards := some (p.states.mapValues fun _ => cardOf)

theorem Declared.ofKinds_kinds (p : Program) : ofKinds p (kinds p) = ofProgram p := by
  have htape : (if p.input.isSome then p.input.map Preset.cells else none) =
      p.input.map Preset.cells := by cases p.input <;> rfl
  have hhead : (if p.input.isSome then p.input.map Preset.head else none) =
      p.input.map Preset.head := by cases p.input <;> rfl
  have hflip : ∀ s : KeySet Symbol, (if (!s.isEmpty) = true then some s else none) =
      if s.isEmpty = true then none else some s := by
    intro s
    cases s.isEmpty <;> rfl
  simp only [ofKinds, ofProgram, mem_kinds, writes, htape, hhead, hflip, if_true]

/-- **The declarations of a program**, in any order. -/
theorem ofDocument_says {doc : Document} {order : List Kind}
    (h : List.Forall₂ (fun x k => x.value.Says p k) doc order) (ho : order.Perm (kinds p)) :
    Declared.ofDocument doc = .ok (.ofProgram p) := by
  have hn : (order.reverse ++ []).Nodup := by
    rw [List.append_nil, ((List.reverse_perm order).trans ho).nodup_iff]
    exact List.Pairwise.filter _ (by decide : Kind.all.Nodup)
  have hmem : ∀ k, k ∈ order.reverse ++ [] ↔ k ∈ kinds p := fun k => by
    rw [List.append_nil, List.mem_reverse, ho.mem_iff]
  have := foldlM_says h [] hn
  rwa [Declared.ofKinds_congr hmem, Declared.ofKinds_kinds] at this

/-! ### Programs -/

/-- The states are read from the cards they were written as. -/
theorem mapValues_cardOf (hp : p.Expressible) :
    (p.states.mapValues fun _ => cardOf).mapValues (stateOfCard p.halt) = p.states := by
  refine KeyMap.ext ?_
  simp only [KeyMap.mapValues, List.map_map]
  refine (List.map_congr_left fun e he => ?_).trans (List.map_id _)
  obtain ⟨id, st⟩ := e
  show (id, stateOfCard p.halt id (cardOf st)) = (id, st)
  cases st with
  | halting =>
    have hid : id = p.halt := hp.halting _ he rfl
    rw [stateOfCard, if_pos ⟨hid, rfl⟩]
  | executable card =>
    rw [stateOfCard, if_neg ?_]
    · rfl
    · rintro ⟨hid, hempty⟩
      have hcard : card = ∅ := KeyMap.ext (KeyMap.isEmpty_iff.mp hempty)
      exact hp.halt _ he hid (hcard ▸ rfl)

/-- Without an alphabet the program has no actions, so nothing is inferred. -/
theorem actions_eq_nil (hp : p.Expressible) (ha : p.alphabet.entries = []) :
    ∀ e ∈ (p.states.mapValues fun _ => cardOf).entries, e.2.entries = [] := by
  intro e he
  obtain ⟨⟨id, st⟩, hst, rfl⟩ := List.mem_map.mp he
  have hcards := hp.alphabet.resolve_left fun h => h ha
  cases st with
  | halting => rfl
  | executable card => exact hcards (id, card) (List.mem_filterMap.mpr ⟨_, hst, rfl⟩)

theorem inferredAlphabet_eq {cards : KeyMap StateId Card}
    (h : ∀ e ∈ cards.entries, e.2.entries = []) : inferredAlphabet cards = ∅ := by
  have : symbolsRead cards = [] :=
    List.flatMap_eq_nil_iff.mpr fun e he => List.map_eq_nil_iff.mpr (h e he)
  rw [inferredAlphabet, this]
  rfl

theorem inferredMarkers_eq {cards : KeyMap StateId Card}
    (h : ∀ e ∈ cards.entries, e.2.entries = []) : inferredMarkers cards = ∅ := by
  have : symbolsWritten cards = [] :=
    List.flatMap_eq_nil_iff.mpr fun e he => List.map_eq_nil_iff.mpr (h e he)
  rw [inferredMarkers, this]
  rfl

/-- The symbols are declared, or inferred where none are. -/
theorem getD_symbols {symbols inferred : KeySet Symbol}
    (h : symbols.entries = [] → inferred = ∅) :
    (if symbols.isEmpty then none else some symbols).getD inferred = symbols := by
  split
  · rename_i he
    have hs : symbols.entries = [] := KeyMap.isEmpty_iff.mp he
    rw [Option.getD_none, h hs]
    exact KeyMap.ext hs.symm
  · rfl

/-- **What a program declares is that program.** -/
theorem toProgram_ofProgram (hp : p.Expressible) : (Declared.ofProgram p).toProgram = .ok p := by
  have halphabet := getD_symbols fun h => inferredAlphabet_eq (actions_eq_nil hp h)
  have hmarkers : (if p.markers.isEmpty then none else some p.markers).getD
      (if (if p.alphabet.isEmpty then none else some p.alphabet).isSome then ∅
        else inferredMarkers (p.states.mapValues fun _ => cardOf)) = p.markers := by
    refine getD_symbols fun _ => ?_
    cases he : p.alphabet.isEmpty with
    | true => exact inferredMarkers_eq (actions_eq_nil hp (KeyMap.isEmpty_iff.mp he))
    | false => rfl
  have hinput : (p.input.map Preset.cells).map (fun cells =>
      ({ name := p.name, cells, head := (p.input.map Preset.head).getD 0 } : Preset)) = p.input := by
    cases hi : p.input with
    | none => rfl
    | some i =>
      show some ({ name := p.name, cells := i.cells, head := i.head } : Preset) = some i
      rw [← (hp.input i hi).1]
  have htape : ((p.input.map Preset.head).isSome && (p.input.map Preset.cells).isNone) = false := by
    cases p.input <;> rfl
  unfold Declared.toProgram Declared.ofProgram
  dsimp only
  rw [htape, if_neg (by simp), halphabet, hmarkers, hinput, Option.getD_some, Option.getD_some,
    mapValues_cardOf hp]

/-! ### Texts -/

theorem parse_eq_ok_iff {α : Type} {g : Grammar Rule α} {text : List Char} {a : α} :
    parse g text = .ok a ↔ ∃ c, g.read ⟨0, text⟩ = some (a, c) := by
  unfold parse
  cases g.read ⟨0, text⟩ with
  | none => simp
  | some r => obtain ⟨b, c⟩ := r; simp

theorem mapError_eq_ok_iff {ε ε' α : Type} {f : ε → ε'} {x : Except ε α} {a : α} :
    x.mapError f = .ok a ↔ x = .ok a := by
  cases x <;> simp [Except.mapError]

theorem blameText_eq_ok_iff {α : Type} {text : List Char} {x : Except (Located Fault) α} {a : α} :
    blameText text x = .ok a ↔ x = .ok a := by
  cases x <;> simp [blameText]

theorem readDeclared_eq_ok_iff {text : List Char} {d : Declared} :
    readDeclared text = .ok d ↔
      ∃ doc, parse program text = .ok doc ∧ Declared.ofDocument doc = .ok d := by
  simp only [readDeclared, bind_eq_ok_iff, blameText_eq_ok_iff]

theorem checkSize_eq_ok_iff {s : String} :
    checkSize s = .ok () ↔ s.utf8ByteSize ≤ sizeLimit := by
  unfold checkSize
  split
  · rename_i h; simp only [reduceCtorEq, false_iff]; omega
  · rename_i h; simp only [true_iff]; omega

/-- **When a text is a program**: it is within the size limit, matches the grammar, its declarations
have no fault and none is missing. -/
theorem ofText_eq_ok_iff {s : String} : Program.ofText s = .ok p ↔ s.utf8ByteSize ≤ sizeLimit ∧
    ∃ doc d, parse program (trim s.toList) = .ok doc ∧ Declared.ofDocument doc = .ok d ∧
      d.toProgram = .ok p := by
  simp only [Program.ofText, bind_eq_ok_iff, mapError_eq_ok_iff, readDeclared_eq_ok_iff]
  constructor
  · rintro ⟨⟨⟩, hs, d, ⟨doc, hdoc, hd⟩, hp⟩
    exact ⟨checkSize_eq_ok_iff.mp hs, doc, d, hdoc, hd, hp⟩
  · rintro ⟨hs, doc, d, hdoc, hd, hp⟩
    exact ⟨(), checkSize_eq_ok_iff.mpr hs, d, ⟨doc, hdoc, hd⟩, hp⟩

end CardMachine.Format
