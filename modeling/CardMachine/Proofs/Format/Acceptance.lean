import CardMachine.Proofs.Check.Problems
import CardMachine.Proofs.Format.Faults
import CardMachine.Proofs.Format.Shape

/-! # Which documents are programs, and which programs they are

A document is a program if it has no fault and nothing is missing. Said without the order in which
it is looked at, this is `Document.Acceptable`: nothing is given twice, the numbers are in range,
and the declarations that a program needs are there. If it is not, the text is refused for the
first of the document's complaints (`ofText_of_document`): its faults in the order of the text, and
after them what is missing in it.

Numbers are judged by their values, and these are the values of the digits that stand at their
places in the text, with as many leading zeros as one likes (`numerals_of_parse`).

Whatever the text, the program that comes out is shaped (`shaped_of_ofText`). -/

namespace CardMachine

open Grammar
open Text (trim decimalValue)

namespace Format

variable {text : List Char} {doc : Document} {p : Program}

/-! ### Numbers in texts -/

/-- The number is the value of the digits at its place in the text. -/
structure Numeral (text : List Char) (n : Located Nat) : Prop where
  ne_nil : n.span.slice text ≠ []
  digits : ∀ c ∈ n.span.slice text, c.isDigit = true
  value : n.value = decimalValue (n.span.slice text)

/-- The number is the value of the digits at its place in the text, after a sign or none. -/
def SignedNumeral (text : List Char) (i : Located Int) : Prop :=
  ∃ sign digits, i.span.slice text = sign ++ digits ∧
    (sign = [] ∨ sign = ['+'] ∨ sign = ['-']) ∧ digits ≠ [] ∧
    (∀ c ∈ digits, c.isDigit = true) ∧
    i.value = if sign = ['-'] then -(decimalValue digits : Int) else decimalValue digits

theorem read_number {c c' : Cursor} {n : Nat} (hc : c.Of text)
    (hr : number.read c = some (n, c')) :
    let w := Span.slice text ⟨c.pos, c'.pos⟩
    w ≠ [] ∧ (∀ x ∈ w, x.isDigit = true) ∧ n = decimalValue w := by
  obtain ⟨w, hw, rfl⟩ := read_map_iff.mp hr
  obtain ⟨hne, hdigits⟩ := yields_run Char.isDigit c w c' hc hw
  rw [slice_of_run hc hw]
  exact ⟨hne, hdigits, rfl⟩

theorem yields_numeral (r : Rule) : Yields text (.rule r number) (Numeral text) := by
  intro c n c' hc hr
  obtain ⟨hn, hspan⟩ := read_rule_iff.mp hr
  obtain ⟨hne, hdigits, hvalue⟩ := read_number hc hn
  rw [← hspan] at hne hdigits hvalue
  exact ⟨hne, hdigits, hvalue⟩

/-- The part read is a part and then another. -/
theorem slice_append {c : Cursor} (hc : c.Of text) (m n : Nat) :
    Span.slice text ⟨c.pos, ((c.skip m).skip n).pos⟩ =
      Span.slice text ⟨c.pos, (c.skip m).pos⟩ ++
        Span.slice text ⟨(c.skip m).pos, ((c.skip m).skip n).pos⟩ := by
  rw [slice_of_skip (hc.skip m), Cursor.skip_skip, slice_of_skip hc, slice_of_skip hc,
    List.take_add]
  rfl

theorem read_sign {c c' : Cursor} {x : Option Char} (hc : c.Of text)
    (hr : (Grammar.opt sign).read c = some (x, c')) :
    Span.slice text ⟨c.pos, c'.pos⟩ = x.toList ∧ (x = none ∨ x = some '+' ∨ x = some '-') := by
  rcases read_opt_iff.mp hr with ⟨rfl, rfl, -⟩ | ⟨y, rfl, hy⟩
  · exact ⟨slice_of_skip hc 0, .inl rfl⟩
  · rw [sign, read_char] at hy
    split at hy
    · cases hy
    · rename_i z rest hz
      split at hy
      · rename_i hsign
        cases hy
        have hslice := slice_of_skip hc 1
        rw [hz] at hslice
        exact ⟨hslice, .inr (by simpa using hsign)⟩
      · cases hy

theorem yields_offset : Yields text offset (SignedNumeral text) := by
  intro c i c' hc hr
  obtain ⟨hi, hspan⟩ := read_rule_iff.mp hr
  obtain ⟨⟨x, n⟩, hseq, hvalue⟩ := read_map_iff.mp hi
  obtain ⟨c₁, hsign, hnumber⟩ := read_seq_iff.mp hseq
  obtain ⟨hx, hcases⟩ := read_sign hc hsign
  obtain ⟨hne, hdigits, hn⟩ := read_number (of_read hc hsign) hnumber
  obtain ⟨m, rfl⟩ := skip_of_read _ hsign
  obtain ⟨k, rfl⟩ := skip_of_read _ hnumber
  refine ⟨x.toList, _, ?_, ?_, hne, hdigits, ?_⟩
  · rw [hspan, slice_append hc, hx]
  · rcases hcases with rfl | rfl | rfl <;> simp
  · rw [← hvalue, ← hn]
    rcases hcases with rfl | rfl | rfl <;> rfl

/-- The numbers of states in a declaration. -/
def Declaration.stateIds : Declaration → List (Located Nat)
  | .entry id | .halt id => [id]
  | .cards cs => cs.flatMap fun c => c.value.id :: c.value.actions.map fun line => line.value.next
  | .name _ | .alphabet _ | .markers _ | .tape _ | .head _ => []

/-- The displacements in a declaration. -/
def Declaration.offsets : Declaration → List (Located Int)
  | .cards cs => cs.flatMap fun c => c.value.actions.map fun line => line.value.step
  | _ => []

/-- The head positions in a declaration. -/
def Declaration.heads : Declaration → List (Located Nat)
  | .head n => [n]
  | _ => []

/-- The numbers of an action line are the values of numerals of the text. -/
def ActionLine.Numerals (text : List Char) (line : ActionLine) : Prop :=
  SignedNumeral text line.step ∧ Numeral text line.next

/-- The numbers of a card are the values of numerals of the text. -/
def CardLines.Numerals (text : List Char) (lines : CardLines) : Prop :=
  Numeral text lines.id ∧ ∀ line ∈ lines.actions, line.value.Numerals text

/-- The numbers of a declaration are the values of numerals of the text. -/
structure Declaration.Numerals (text : List Char) (d : Declaration) : Prop where
  stateIds : ∀ n ∈ d.stateIds, Numeral text n
  offsets : ∀ i ∈ d.offsets, SignedNumeral text i
  heads : ∀ n ∈ d.heads, Numeral text n

theorem yields_action : Yields text action (fun x => x.value.Numerals text) := by
  have hstep : Yields text offset (SignedNumeral text) := yields_offset
  have hparts := ((yields_any symbol).left (.word ['-', '>'])).both
    (((yields_any symbol).left (.word [','])).both
      ((hstep.left (.word [','])).both (yields_numeral .stateId)))
  refine (hparts.map (Q := ActionLine.Numerals text) ?_).rule Rule.action
  rintro ⟨read, write, step, next⟩ ⟨-, -, hstep, hnext⟩
  exact ⟨hstep, hnext⟩

theorem yields_card : Yields text card (fun x => x.value.Numerals text) := by
  have hid : Yields text stateId (Numeral text) := yields_numeral .stateId
  have hparts := (hid.left (.word [':'])).both (yields_action.right lineEnd.plus).star
  refine (hparts.map (Q := CardLines.Numerals text) ?_).rule Rule.card
  rintro ⟨id, actions⟩ ⟨hid, hactions⟩
  exact ⟨hid, hactions⟩

theorem yields_numerals (k : Kind) :
    Yields text (ofKind k) (fun x => x.value.Numerals text) := by
  cases k with
  | name | alphabet | markers | tape =>
    refine yields_declared (yields_any _) fun _ _ => ⟨?_, ?_, ?_⟩ <;> exact fun _ h => by cases h
  | entry | halt =>
    refine yields_declared (yields_numeral .stateId) fun n hn => ⟨?_, ?_, ?_⟩
    · exact fun _ h => List.mem_singleton.mp h ▸ hn
    · exact fun _ h => by cases h
    · exact fun _ h => by cases h
  | head =>
    refine yields_declared (yields_numeral .index) fun n hn => ⟨?_, ?_, ?_⟩
    · exact fun _ h => by cases h
    · exact fun _ h => by cases h
    · exact fun _ h => List.mem_singleton.mp h ▸ hn
  | cards =>
    refine yields_declared (yields_card.right lineEnd.plus).plus fun cs hcs => ⟨?_, ?_, ?_⟩
    · intro n hn
      obtain ⟨c, hc, hn⟩ := List.mem_flatMap.mp hn
      rcases List.mem_cons.mp hn with rfl | hn
      · exact (hcs.2 c hc).1
      · obtain ⟨line, hline, rfl⟩ := List.mem_map.mp hn
        exact ((hcs.2 c hc).2 line hline).2
    · intro i hi
      obtain ⟨c, hc, hi⟩ := List.mem_flatMap.mp hi
      obtain ⟨line, hline, rfl⟩ := List.mem_map.mp hi
      exact ((hcs.2 c hc).2 line hline).1
    · exact fun _ h => by cases h

/-- **The numbers of a document stand in the text.** -/
theorem numerals_of_parse (h : parse program text = .ok doc) :
    ∀ x ∈ doc, x.value.Numerals text := by
  obtain ⟨c, hr⟩ := parse_eq_ok_iff.mp h
  exact yields_program yields_numerals _ doc c (Cursor.of_start text) hr

/-! ### Acceptable documents -/

/-- The cards of a declaration. -/
def Declaration.cardLines : Declaration → List (Located CardLines)
  | .cards cs => cs
  | _ => []

/-- Nothing is declared twice, the numbers are in range, and nothing is missing. -/
structure Document.Acceptable (doc : Document) : Prop where
  /-- No kind is declared twice. -/
  kinds : (doc.map fun x => x.value.kind).Nodup
  /-- No two cards have the same number. -/
  cards : ∀ x ∈ doc, (x.value.cardLines.map fun c => c.value.id.value).Nodup
  /-- No card has two actions for a symbol. -/
  actions : ∀ x ∈ doc, ∀ c ∈ x.value.cardLines,
    (c.value.actions.map fun line => line.value.read).Nodup
  stateIds : ∀ x ∈ doc, ∀ n ∈ x.value.stateIds, n.value < UInt32.size
  offsets : ∀ x ∈ doc, ∀ i ∈ x.value.offsets,
    Int64.minValue.toInt ≤ i.value ∧ i.value ≤ Int64.maxValue.toInt
  heads : ∀ x ∈ doc, ∀ n ∈ x.value.heads, n.value < UInt64.size
  name : doc.Has .name
  hasCards : doc.Has .cards
  tape : doc.Has .head → doc.Has .tape

/-- What a document lacks. -/
def Document.omissions (doc : Document) : List Omission :=
  (if ¬doc.Has .name then [.name] else []) ++ (if ¬doc.Has .cards then [.cards] else []) ++
    if doc.Has .head ∧ ¬doc.Has .tape then [.tapeOfHead] else []

/-- Why the document of a text is no program: its faults, and then what it lacks. -/
def Document.complaints (text : List Char) (doc : Document) : List Error :=
  (doc.faults.map fun f => .parse ⟨text, .fault f.span f.value⟩) ++
    doc.omissions.map fun o => .refused (.incomplete o)

theorem judge_eq_nil_iff {ε α κ : Type} {f : List α → α → List ε} {A : α → Prop} {key : α → κ}
    (hf : ∀ before x, f before x = [] ↔ A x ∧ ¬∃ y ∈ before, key y = key x) :
    ∀ l before : List α, judge f before l = [] ↔
      (∀ x ∈ l, A x) ∧ (l.map key).Nodup ∧ ∀ x ∈ l, ∀ y ∈ before, key y ≠ key x
  | [], before => by simp [judge]
  | x :: l, before => by
    rw [judge, List.append_eq_nil_iff, hf, judge_eq_nil_iff hf l (before ++ [x])]
    simp only [List.forall_mem_cons, List.map_cons, List.nodup_cons, List.mem_map,
      List.forall_mem_append, List.not_mem_nil, not_exists, not_and, ne_eq]
    constructor
    · rintro ⟨⟨hx, hbefore⟩, hl, hnodup, hnew⟩
      refine ⟨⟨hx, hl⟩, ⟨fun y hy h => (hnew y hy).2.1 h.symm, hnodup⟩, hbefore, ?_⟩
      exact fun y hy => (hnew y hy).1
    · rintro ⟨⟨hx, hl⟩, ⟨hfresh, hnodup⟩, hbefore, hnew⟩
      refine ⟨⟨hx, hbefore⟩, hl, hnodup, fun y hy => ⟨hnew y hy, fun h => hfresh y hy h.symm, ?_⟩⟩
      exact fun _ h => by cases h

/-! ### No complaints -/

theorem ite_eq_nil_iff {α : Type} {c : Prop} [Decidable c] {a : α} :
    (if c then [] else [a]) = [] ↔ c := by
  split <;> simp_all

theorem ite_singleton_eq_nil_iff {α : Type} {c : Prop} [Decidable c] {a : α} :
    (if c then [a] else []) = [] ↔ ¬c := by
  split <;> simp_all

theorem actionFaults_eq_nil_iff (id : StateId) (before : List (Located ActionLine))
    (line : Located ActionLine) : actionFaults id before line = [] ↔
      ((Int64.minValue.toInt ≤ line.value.step.value ∧
        line.value.step.value ≤ Int64.maxValue.toInt) ∧
        line.value.next.value < UInt32.size) ∧ ¬∃ x ∈ before, x.value.read = line.value.read := by
  simp only [actionFaults, stepFaults, stateFaults, List.append_eq_nil_iff, ite_eq_nil_iff,
    ite_singleton_eq_nil_iff]

/-- A card that has no fault of its own. -/
structure CardLines.Sound (lines : CardLines) : Prop where
  id : lines.id.value < UInt32.size
  numbers : ∀ line ∈ lines.actions,
    (Int64.minValue.toInt ≤ line.value.step.value ∧
      line.value.step.value ≤ Int64.maxValue.toInt) ∧ line.value.next.value < UInt32.size
  actions : (lines.actions.map fun line => line.value.read).Nodup

theorem cardFaults_eq_nil_iff (before : List (Located CardLines)) (card : Located CardLines) :
    cardFaults before card = [] ↔
      card.value.Sound ∧ ¬∃ x ∈ before, x.value.id.value = card.value.id.value := by
  have hactions := judge_eq_nil_iff (actionFaults_eq_nil_iff (.ofNat card.value.id.value))
    card.value.actions []
  simp only [cardFaults, stateFaults, List.append_eq_nil_iff, ite_eq_nil_iff,
    ite_singleton_eq_nil_iff, hactions]
  constructor
  · rintro ⟨⟨hid, hnew⟩, hnumbers, hnodup, -⟩
    exact ⟨⟨hid, hnumbers, hnodup⟩, hnew⟩
  · rintro ⟨⟨hid, hnumbers, hnodup⟩, hnew⟩
    exact ⟨⟨hid, hnew⟩, hnumbers, hnodup, fun _ _ _ h => by cases h⟩

/-- A declaration that has no fault of its own. -/
structure Declaration.Sound (d : Declaration) : Prop where
  cards : (d.cardLines.map fun c => c.value.id.value).Nodup
  actions : ∀ c ∈ d.cardLines, (c.value.actions.map fun line => line.value.read).Nodup
  stateIds : ∀ n ∈ d.stateIds, n.value < UInt32.size
  offsets : ∀ i ∈ d.offsets, Int64.minValue.toInt ≤ i.value ∧ i.value ≤ Int64.maxValue.toInt
  heads : ∀ n ∈ d.heads, n.value < UInt64.size

theorem Declaration.faults_eq_nil_iff (d : Declaration) : d.faults = [] ↔ d.Sound := by
  cases d with
  | name _ | alphabet _ | markers _ | tape _ =>
    refine ⟨fun _ => ⟨.nil, ?_, ?_, ?_, ?_⟩, fun _ => rfl⟩ <;> exact fun _ h => by cases h
  | entry n | halt n =>
    rw [faults, stateFaults, ite_eq_nil_iff]
    refine ⟨fun hn => ⟨.nil, ?_, ?_, ?_, ?_⟩, fun h => h.stateIds n (List.mem_singleton.mpr rfl)⟩
    · exact fun _ h => by cases h
    · exact fun _ h => List.mem_singleton.mp h ▸ hn
    · exact fun _ h => by cases h
    · exact fun _ h => by cases h
  | head n =>
    rw [faults, headFaults, ite_eq_nil_iff]
    refine ⟨fun hn => ⟨.nil, ?_, ?_, ?_, ?_⟩, fun h => h.heads n (List.mem_singleton.mpr rfl)⟩
    · exact fun _ h => by cases h
    · exact fun _ h => by cases h
    · exact fun _ h => by cases h
    · exact fun _ h => List.mem_singleton.mp h ▸ hn
  | cards cs =>
    rw [faults, judge_eq_nil_iff cardFaults_eq_nil_iff]
    constructor
    · rintro ⟨hcs, hnodup, -⟩
      refine ⟨hnodup, fun c hc => (hcs c hc).actions, fun n hn => ?_, fun i hi => ?_, ?_⟩
      · obtain ⟨c, hc, hn⟩ := List.mem_flatMap.mp hn
        rcases List.mem_cons.mp hn with rfl | hn
        · exact (hcs c hc).id
        · obtain ⟨line, hline, rfl⟩ := List.mem_map.mp hn
          exact ((hcs c hc).numbers line hline).2
      · obtain ⟨c, hc, hi⟩ := List.mem_flatMap.mp hi
        obtain ⟨line, hline, rfl⟩ := List.mem_map.mp hi
        exact ((hcs c hc).numbers line hline).1
      · exact fun _ h => by cases h
    · intro h
      refine ⟨fun c hc => ⟨?_, fun line hline => ⟨?_, ?_⟩, h.actions c hc⟩, h.cards,
        fun _ _ _ h => by cases h⟩
      · exact h.stateIds _ (List.mem_flatMap.mpr ⟨c, hc, List.mem_cons_self⟩)
      · exact h.offsets _ (List.mem_flatMap.mpr ⟨c, hc, List.mem_map_of_mem hline⟩)
      · exact h.stateIds _ (List.mem_flatMap.mpr
          ⟨c, hc, List.mem_cons_of_mem _ (List.mem_map_of_mem hline)⟩)

theorem Document.faults_eq_nil_iff (doc : Document) : doc.faults = [] ↔
    (∀ x ∈ doc, x.value.Sound) ∧ (doc.map fun x => x.value.kind).Nodup := by
  have hdeclaration : ∀ (before : Document) (x : Located Declaration),
      declarationFaults before x = [] ↔
        x.value.Sound ∧ ¬∃ y ∈ before, y.value.kind = x.value.kind := by
    intro before x
    rw [declarationFaults, List.append_eq_nil_iff, ite_singleton_eq_nil_iff,
      Declaration.faults_eq_nil_iff, and_comm]
    rfl
  rw [Document.faults, judge_eq_nil_iff hdeclaration]
  exact and_congr_right fun _ => and_iff_left fun _ _ _ h => by cases h

theorem Document.omissions_eq_nil_iff (doc : Document) : doc.omissions = [] ↔
    doc.Has .name ∧ doc.Has .cards ∧ (doc.Has .head → doc.Has .tape) := by
  simp only [omissions, List.append_eq_nil_iff, ite_singleton_eq_nil_iff, not_not, not_and,
    and_assoc]

/-- **An acceptable document gives no reason to complain.** -/
theorem Document.complaints_eq_nil_iff (text : List Char) (doc : Document) :
    doc.complaints text = [] ↔ doc.Acceptable := by
  rw [complaints, List.append_eq_nil_iff, List.map_eq_nil_iff, List.map_eq_nil_iff,
    faults_eq_nil_iff, omissions_eq_nil_iff]
  constructor
  · rintro ⟨⟨hx, hkinds⟩, hname, hcards, htape⟩
    exact ⟨hkinds, fun x h => (hx x h).cards, fun x h => (hx x h).actions,
      fun x h => (hx x h).stateIds, fun x h => (hx x h).offsets, fun x h => (hx x h).heads,
      hname, hcards, htape⟩
  · intro h
    exact ⟨⟨fun x hx => ⟨h.cards x hx, h.actions x hx, h.stateIds x hx, h.offsets x hx,
      h.heads x hx⟩, h.kinds⟩, h.name, h.hasCards, h.tape⟩

/-! ### Texts -/

theorem verdict_toProgram {d : Declared} (h : d.Takes doc) :
    Verdict doc.omissions d.toProgram (fun p => ∃ m, d.Makes m p) := by
  have hname : d.name.isSome = true ↔ doc.Has .name := h.has .name
  have hcards : d.cards.isSome = true ↔ doc.Has .cards := h.has .cards
  have hhead : d.head.isSome = true ↔ doc.Has .head := h.has .head
  have htape : d.tape.isSome = true ↔ doc.Has .tape := h.has .tape
  simp only [Document.omissions, ← hname, ← hcards, ← hhead, ← htape]
  cases hp : d.toProgram with
  | ok p =>
    obtain ⟨m, hm⟩ := makes_of_toProgram hp
    have hname' : d.name.isSome = true := by rw [hm.name]; rfl
    have hcards' : d.cards.isSome = true := by rw [hm.cards]; rfl
    rw [if_neg (not_not.mpr hname'), if_neg (not_not.mpr hcards'),
      if_neg fun h => h.2 (hm.head h.1)]
    exact verdict_ok ⟨m, hm⟩
  | error o =>
    unfold Declared.toProgram at hp
    split at hp
    · rename_i hn
      cases hp
      rw [hn]
      rfl
    · rename_i hn hc
      cases hp
      rw [hn, hc]
      rfl
    · rename_i hn hc
      rw [hn, hc]
      split at hp
      · rename_i hmissing
        cases hp
        have hmissing : d.head.isSome = true ∧ ¬d.tape.isSome = true := by simpa using hmissing
        rw [if_pos hmissing]
        rfl
      · cases hp

theorem blameText_eq_mapError {α : Type} (text : List Char) (x : Except (Located Fault) α) :
    blameText text x = x.mapError fun f => ⟨text, .fault f.span f.value⟩ := by
  cases x <;> rfl

theorem cardOf_stateOfCard (halt id : StateId) (card : Card) :
    cardOf (stateOfCard halt id card) = card := by
  unfold stateOfCard
  split
  · rename_i h
    exact (KeyMap.ext (KeyMap.isEmpty_iff.mp h.2)).symm
  · rfl

/-- The states of the program are the cards of the document, one for each, with the actions of its
lines, one for each. -/
def Document.Gives (doc : Document) (p : Program) : Prop :=
  ∃ x ∈ doc, ∃ cs, x.value = .cards cs ∧
    Lists (fun c e => c.value.Gives (e.1, cardOf e.2)) cs p.states

theorem Declared.Makes.gives {d : Declared} {m : KeyMap StateId Card} (hd : d.Takes doc)
    (hm : d.Makes m p) : doc.Gives p := by
  obtain ⟨x, hx, cs, hcs, l, hl, hperm⟩ := hd.cards m hm.cards
  refine ⟨x, hx, cs, hcs, l.map fun e => (e.1, stateOfCard p.halt e.1 e.2), ?_, ?_⟩
  · refine List.forall₂_map_right_iff.mpr (hl.imp fun c e hce => ?_)
    rw [cardOf_stateOfCard]
    exact hce
  · rw [hm.states]
    exact hperm.map _

/-- **A text is refused for the first complaint about its document**, and if there is none gives a
program with the cards of the document. -/
theorem verdict_ofText {s : String} (hs : s.utf8ByteSize ≤ sizeLimit)
    (hdoc : parse program (trim s.toList) = .ok doc) :
    Verdict (doc.complaints (trim s.toList)) (Program.ofText s) doc.Gives := by
  have hread : readDeclared (trim s.toList) =
      (Declared.ofDocument doc).mapError fun f => ⟨trim s.toList, .fault f.span f.value⟩ := by
    rw [readDeclared, hdoc, ← blameText_eq_mapError]
    rfl
  have hdeclared := ((verdict_ofDocument doc).mapError
    fun f => (⟨trim s.toList, .fault f.span f.value⟩ : Diagnostic)).mapError Error.parse
  rw [← hread, List.map_map] at hdeclared
  have htext : Program.ofText s = (readDeclared (trim s.toList)).mapError Error.parse >>=
      fun d => d.toProgram.mapError fun o => .refused (.incomplete o) := by
    rw [Program.ofText, checkSize_eq_ok_iff.mpr hs]
    rfl
  rw [htext]
  refine hdeclared.bind fun d hd => ?_
  refine ((verdict_toProgram hd).mapError _).imp ?_
  rintro p ⟨m, hm⟩
  exact hm.gives hd

end Format

open Format

/-- **Which documents are programs.** A text within the size limit, whose document is `doc`, is a
program if and only if the document is acceptable, where numbers count by the value of the digits in
the text. The states are then the cards of the document. Otherwise the text is refused for the first
complaint: the first fault in the order of the text, and if there is no fault, what is missing. -/
theorem Program.ofText_of_document {s : String} {doc : Document}
    (hs : s.utf8ByteSize ≤ sizeLimit) (hdoc : parse program (trim s.toList) = .ok doc) :
    (∀ x ∈ doc, x.value.Numerals (trim s.toList)) ∧
    ((∃ p, ofText s = .ok p) ↔ doc.Acceptable) ∧
    (∀ p, ofText s = .ok p → doc.Gives p) ∧
    (¬doc.Acceptable →
      ∃ e, (doc.complaints (trim s.toList)).head? = some e ∧ ofText s = .error e) := by
  have hverdict := verdict_ofText hs hdoc
  have hnil := doc.complaints_eq_nil_iff (trim s.toList)
  refine ⟨numerals_of_parse hdoc, ?_, fun p hp => hverdict.of_ok hp, fun hno => ?_⟩
  · rw [hverdict.exists_ok_iff, hnil]
  · exact hverdict.exists_error (mt hnil.mp hno)

/-- The document of a text without a name and with a card given twice, once with a leading zero. -/
def twoCards : Document :=
  [⟨.cards [⟨⟨⟨1, ⟨7, 8⟩⟩, []⟩, ⟨7, 9⟩⟩, ⟨⟨⟨1, ⟨10, 12⟩⟩, []⟩, ⟨10, 13⟩⟩], ⟨0, 13⟩⟩]

theorem Program.ofText_of_document_twoCards :
    parse program (trim "cards:\n1:\n01:\n".toList) = .ok twoCards ∧ ¬twoCards.Acceptable ∧
      ofText "cards:\n1:\n01:\n" =
        .error (.parse ⟨"cards:\n1:\n01:".toList, .fault ⟨10, 13⟩ (.repeatedCard 1)⟩) := by
  have hdoc : parse program (trim "cards:\n1:\n01:\n".toList) = .ok twoCards := rfl
  have hno : ¬twoCards.Acceptable := fun h =>
    absurd (h.cards _ (List.mem_singleton.mpr rfl)) (by decide)
  obtain ⟨e, he, herror⟩ := (ofText_of_document (by decide) hdoc).2.2.2 hno
  have hfirst : (twoCards.complaints (trim "cards:\n1:\n01:\n".toList)).head? =
      some (.parse ⟨"cards:\n1:\n01:".toList, .fault ⟨10, 13⟩ (.repeatedCard 1)⟩) := rfl
  rw [hfirst] at he
  cases he
  exact ⟨hdoc, hno, herror⟩

/-- **The shape of a program that was read.** It is that of a declared program, so no placeholder is
ever stray; and if the alphabet is empty, there are only markers that the text declares. -/
theorem Program.shaped_of_ofText {s : String} {p : Program} (h : ofText s = .ok p) :
    p.Shaped ∧ (∀ id, .strayHaltingState id ∉ p.problems) ∧
    (p.alphabet.entries = [] → p.markers.entries ≠ [] →
      ∃ doc, parse program (trim s.toList) = .ok doc ∧ doc.Has .markers) := by
  obtain ⟨-, doc, d, hdoc, hd, hp⟩ := ofText_eq_ok_iff.mp h
  obtain ⟨cards, hmakes⟩ := makes_of_toProgram hp
  have hshaped := hmakes.shaped (filled_ofDocument (filled_of_parse hdoc) hd)
  have htakes := (verdict_ofDocument doc).of_ok hd
  refine ⟨hshaped, fun id hid => ?_, fun ha hm => ⟨doc, hdoc, (htakes.has .markers).mp ?_⟩⟩
  · cases mem_problems_iff.mp hid with
    | strayHaltingState he hne => exact hne (hshaped.halting _ he rfl)
    | ofCard _ _ hflaw => cases hflaw
  · refine Option.isSome_iff_ne_none.mpr fun hnone => hm ?_
    exact hmakes.markers_eq_nil ha hnone

/-- A program with markers and without an alphabet. -/
def markersOnly : Program where
  name := "x"
  alphabet := ∅
  markers := KeySet.ofList ['m']
  entry := 1
  halt := 0
  states := KeyMap.empty.insert 0 .halting
  input := none

theorem Program.shaped_of_ofText_markersOnly :
    ofText "cards:\n0:\nname: x\nmarkers: m" = .ok markersOnly ∧ markersOnly.Shaped ∧
      ∃ doc, parse program (trim "cards:\n0:\nname: x\nmarkers: m".toList) = .ok doc ∧
        doc.Has .markers := by
  have h : ofText "cards:\n0:\nname: x\nmarkers: m" = .ok markersOnly := rfl
  obtain ⟨hshaped, -, hmarkers⟩ := shaped_of_ofText h
  exact ⟨h, hshaped, hmarkers rfl (by decide)⟩

end CardMachine
