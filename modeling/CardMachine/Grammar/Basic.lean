import CardMachine.Grammar.Cursor

/-! # Grammars

A `Grammar ρ α` says how to read a value of type `α` from the front of a text. Choices are ordered
and repetitions greedy: the first alternative that matches is taken, a repetition goes on as long
as it can, and neither is reconsidered. Rules, named by `ρ`, give what they read its place in the
text, and are what a text that does not match is said to lack.

A grammar is a finite tree, so it has more than one meaning by recursion on it. `Grammar.read` is
the value read and the cursor after it. What is expected where reading fails is the subject of
`Grammar.expect`. -/

namespace CardMachine

open Grammar (Cursor Located)

/-- How to read a value of type `α`, with rules named by `ρ`. -/
inductive Grammar (ρ : Type) : Type → Type 1 where
  /-- One character that satisfies `p`. -/
  | char (p : Char → Bool) : Grammar ρ Char
  /-- The characters of a fixed word. -/
  | word (w : List Char) : Grammar ρ Unit
  /-- The longest run of characters that satisfy `p`; there must be at least one. -/
  | run (p : Char → Bool) : Grammar ρ (List Char)
  /-- Blanks and a comment, or nothing. -/
  | gap : Grammar ρ Unit
  /-- The end of the text. -/
  | finish : Grammar ρ Unit
  /-- One after the other. -/
  | seq {α β : Type} (g : Grammar ρ α) (h : Grammar ρ β) : Grammar ρ (α × β)
  /-- The first, or if it does not match the second. -/
  | alt {α : Type} (g h : Grammar ρ α) : Grammar ρ α
  /-- Once or not at all. -/
  | opt {α : Type} (g : Grammar ρ α) : Grammar ρ (Option α)
  /-- As often as it matches. -/
  | many {α : Type} (g : Grammar ρ α) : Grammar ρ (List α)
  /-- A look ahead, which consumes nothing. -/
  | peek {α : Type} (g : Grammar ρ α) : Grammar ρ Unit
  /-- A rule. -/
  | rule {α : Type} (r : ρ) (g : Grammar ρ α) : Grammar ρ (Located α)
  /-- The same text, read as another value. -/
  | map {α β : Type} (f : α → β) (g : Grammar ρ α) : Grammar ρ β

namespace Grammar

variable {ρ α β : Type}

/-- Reads as often as `step` succeeds, and no more often than `fuel` has members. Each round of a
repetition consumes a character, so the text that is left is always fuel enough. -/
def rounds (step : Cursor → Option (α × Cursor)) :
    (fuel : List Char) → (read : List α) → Cursor → List α × Cursor
  | [], read, c => (read.reverse, c)
  | _ :: fuel, read, c =>
    match step c with
    | none => (read.reverse, c)
    | some (a, c') => rounds step fuel (a :: read) c'

/-- Reads from the front of a text: the value and the cursor after it, or nothing if the text does
not match. -/
def read : {α : Type} → Grammar ρ α → Cursor → Option (α × Cursor)
  | _, char p, c =>
    match c.rest with
    | [] => none
    | x :: rest => if p x then some (x, ⟨c.pos + 1, rest⟩) else none
  | _, word w, c => if w.isPrefixOf c.rest then some ((), c.skip w.length) else none
  | _, run p, c =>
    match c.rest.takeWhile p with
    | [] => none
    | x :: xs => some (x :: xs, c.skipWhile p)
  | _, gap, c => some ((), c.skipGap)
  | _, finish, c => if c.rest.isEmpty then some ((), c) else none
  | _, seq g h, c =>
    match g.read c with
    | none => none
    | some (a, c') =>
      match h.read c' with
      | none => none
      | some (b, c'') => some ((a, b), c'')
  | _, alt g h, c =>
    match g.read c with
    | none => h.read c
    | some r => some r
  | _, opt g, c =>
    match g.read c with
    | none => some (none, c)
    | some (a, c') => some (some a, c')
  | _, many g, c => some (rounds g.read c.rest [] c)
  | _, peek g, c =>
    match g.read c with
    | none => none
    | some _ => some ((), c)
  | _, rule _ g, c =>
    match g.read c with
    | none => none
    | some (a, c') => some (⟨a, ⟨c.pos, c'.pos⟩⟩, c')
  | _, map f g, c =>
    match g.read c with
    | none => none
    | some (a, c') => some (f a, c')

/-! ### Reading, part by part

Each kind of part has its equation, so that nothing else unfolds `read`. -/

section Parts

variable {g : Grammar ρ α} {h : Grammar ρ β} {c c' : Cursor}

theorem read_char (p : Char → Bool) (c : Cursor) : (char p : Grammar ρ Char).read c =
    match c.rest with
    | [] => none
    | x :: rest => if p x then some (x, ⟨c.pos + 1, rest⟩) else none := rfl

theorem read_word (w : List Char) (c : Cursor) : (word w : Grammar ρ Unit).read c =
    if w.isPrefixOf c.rest then some ((), c.skip w.length) else none := rfl

theorem read_run (p : Char → Bool) (c : Cursor) : (run p : Grammar ρ (List Char)).read c =
    match c.rest.takeWhile p with
    | [] => none
    | x :: xs => some (x :: xs, c.skipWhile p) := rfl

theorem read_gap (c : Cursor) : (gap : Grammar ρ Unit).read c = some ((), c.skipGap) := rfl

theorem read_finish (c : Cursor) : (finish : Grammar ρ Unit).read c =
    if c.rest.isEmpty then some ((), c) else none := rfl

theorem read_seq_iff {x : α × β} : (seq g h).read c = some (x, c') ↔
    ∃ c₁, g.read c = some (x.1, c₁) ∧ h.read c₁ = some (x.2, c') := by
  obtain ⟨a, b⟩ := x
  show (match g.read c with
    | none => none
    | some (a, c') =>
      match h.read c' with
      | none => none
      | some (b, c'') => some ((a, b), c'')) = _ ↔ _
  cases hg : g.read c with
  | none => simp
  | some r =>
    obtain ⟨a₁, c₁⟩ := r
    cases hh : h.read c₁ with
    | none => simp_all
    | some r' => obtain ⟨b₁, c₂⟩ := r'; simp_all [and_assoc]

theorem read_alt_iff {g' : Grammar ρ α} {r : α × Cursor} : (alt g g').read c = some r ↔
    g.read c = some r ∨ g.read c = none ∧ g'.read c = some r := by
  show (match g.read c with
    | none => g'.read c
    | some r => some r) = _ ↔ _
  cases g.read c <;> simp

theorem read_opt_iff {x : Option α} : (opt g).read c = some (x, c') ↔
    (x = none ∧ c' = c ∧ g.read c = none) ∨ ∃ a, x = some a ∧ g.read c = some (a, c') := by
  show (match g.read c with
    | none => some (none, c)
    | some (a, c') => some (some a, c')) = _ ↔ _
  cases hg : g.read c <;> grind

theorem read_many_iff {l : List α} : (many g).read c = some (l, c') ↔
    rounds g.read c.rest [] c = (l, c') := by
  show some (rounds g.read c.rest [] c) = _ ↔ _
  rw [Option.some_inj]

theorem read_peek_iff {x : Unit} : (peek g).read c = some (x, c') ↔
    c' = c ∧ ∃ r, g.read c = some r := by
  show (match g.read c with
    | none => none
    | some _ => some ((), c)) = _ ↔ _
  cases g.read c <;> simp [eq_comm]

theorem read_rule_iff {r : ρ} {x : Located α} : (rule r g).read c = some (x, c') ↔
    g.read c = some (x.value, c') ∧ x.span = ⟨c.pos, c'.pos⟩ := by
  obtain ⟨a, sp⟩ := x
  show (match g.read c with
    | none => none
    | some (a, c') => some (Located.mk a ⟨c.pos, c'.pos⟩, c')) = _ ↔ _
  cases hg : g.read c <;> grind

theorem read_map_iff {f : α → β} {b : β} : (map f g).read c = some (b, c') ↔
    ∃ a, g.read c = some (a, c') ∧ f a = b := by
  show (match g.read c with
    | none => none
    | some (a, c') => some (f a, c')) = _ ↔ _
  cases hg : g.read c <;> grind

end Parts

/-! ### Parts with gaps between them -/

/-- One after the other, with a gap between. -/
def both (g : Grammar ρ α) (h : Grammar ρ β) : Grammar ρ (α × β) :=
  map (fun x => (x.1, x.2.2)) (seq g (seq gap h))

/-- One after the other, with a gap between; the first value is kept. -/
def left (g : Grammar ρ α) (h : Grammar ρ β) : Grammar ρ α := map Prod.fst (both g h)

/-- One after the other, with a gap between; the second value is kept. -/
def right (g : Grammar ρ α) (h : Grammar ρ β) : Grammar ρ β := map Prod.snd (both g h)

/-- Any number of times, with gaps between the rounds. A gap that no further round follows is not
consumed. -/
def star (g : Grammar ρ α) : Grammar ρ (List α) :=
  map (fun | none => [] | some (a, l) => a :: l)
    (opt (seq g (many (map Prod.snd (seq gap g)))))

/-- At least once, with gaps between the rounds. -/
def plus (g : Grammar ρ α) : Grammar ρ (List α) :=
  map (fun x => x.1 :: x.2) (both g (star g))

/-- The value without its place. -/
def unplaced (g : Grammar ρ (Located α)) : Grammar ρ α := map Located.value g

/-- What is read does not matter. -/
def unit (g : Grammar ρ α) : Grammar ρ Unit := map (fun _ => ()) g

end Grammar

end CardMachine
