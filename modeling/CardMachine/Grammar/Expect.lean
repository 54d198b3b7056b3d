import CardMachine.Grammar.Basic

/-! # What a text lacks

When a text does not match, the message names the rules that could have gone on at the furthest
position where a rule failed. `Grammar.expect` goes through the grammar as reading does and keeps
these rules: a rule that fails further on replaces those noted before it, one that fails at the same
position is added to them.

A rule stands for the rules that failed inside it at its own position: it takes their place, unless
there is exactly one, which says more and is kept instead. Nothing that was noted is taken back when
another alternative is tried. -/

namespace CardMachine.Grammar

variable {ρ : Type}

/-- The rules that failed at the furthest position, in the order they did. -/
structure Attempts (ρ : Type) where
  pos : Nat
  rules : List ρ

namespace Attempts

/-- Before anything was tried. -/
def none : Attempts ρ := ⟨0, []⟩

/-- The number of rules noted at a position. -/
def countAt (a : Attempts ρ) (pos : Nat) : Nat := if a.pos = pos then a.rules.length else 0

/-- Notes that a rule failed at `pos`, where `before` and `a` are the attempts before and after its
body was tried. -/
def note (r : ρ) (pos : Nat) (before a : Attempts ρ) : Attempts ρ :=
  if a.countAt pos - before.countAt pos = 1 then a
  else if a.pos = pos then { a with rules := a.rules.take (before.countAt pos) ++ [r] }
  else if a.pos < pos then ⟨pos, [r]⟩
  else a

end Attempts

/-- What the rounds of a repetition expect, the last of them, which fails, included. -/
def expectRounds {α : Type} (step : Cursor → Option (α × Cursor))
    (expected : Cursor → Attempts ρ → Attempts ρ) :
    (fuel : List Char) → Cursor → Attempts ρ → Attempts ρ
  | [], c, a => expected c a
  | _ :: fuel, c, a =>
    match step c with
    | .none => expected c a
    | some (_, c') => expectRounds step expected fuel c' (expected c a)

/-- The attempts after reading was tried at a cursor. -/
def expect : {α : Type} → Grammar ρ α → Cursor → Attempts ρ → Attempts ρ
  | _, char _, _, a => a
  | _, word _, _, a => a
  | _, run _, _, a => a
  | _, gap, _, a => a
  | _, finish, _, a => a
  | _, seq g h, c, a =>
    match g.read c with
    | none => g.expect c a
    | some (_, c') => h.expect c' (g.expect c a)
  | _, alt g h, c, a =>
    match g.read c with
    | none => h.expect c (g.expect c a)
    | some _ => g.expect c a
  | _, opt g, c, a => g.expect c a
  | _, many g, c, a => expectRounds g.read g.expect c.rest c a
  | _, peek g, c, a => g.expect c a
  | _, rule r g, c, a =>
    match g.read c with
    | none => Attempts.note r c.pos a (g.expect c a)
    | some _ => g.expect c a
  | _, map _ g, c, a => g.expect c a

end CardMachine.Grammar
