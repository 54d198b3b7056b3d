import CardMachine.Proofs.Grammar.Consume
import Mathlib.Data.List.TakeWhile

/-! # What a grammar can read at all

`Yields text g P` says that every value `g` reads at a place of the text has the property `P`. Like
the value itself it is put together from the parts: a repetition reads a list of such values, and at
least one if it must match once. The property may speak of the text, since a rule notes where in the
text it was read (`slice_of_skip`). -/

namespace CardMachine.Grammar

variable {ρ α β : Type} {text : List Char} {g : Grammar ρ α} {h : Grammar ρ β} {P : α → Prop}
  {Q : β → Prop}

/-- Every value that is read at a place of the text has the property. -/
def Yields (text : List Char) (g : Grammar ρ α) (P : α → Prop) : Prop :=
  ∀ c a c', c.Of text → g.read c = some (a, c') → P a

theorem yields_any (g : Grammar ρ α) : Yields text g fun _ => True := fun _ _ _ _ _ => trivial

theorem yields_run (p : Char → Bool) :
    Yields text (run p : Grammar ρ (List Char)) (fun w => w ≠ [] ∧ ∀ c ∈ w, p c = true) := by
  intro c w c' _ hr
  rw [read_run] at hr
  split at hr
  · cases hr
  · rename_i y ys hy
    cases hr
    refine ⟨List.cons_ne_nil y ys, fun x hx => ?_⟩
    rw [← hy] at hx
    exact List.mem_takeWhile_imp hx

theorem Yields.imp {P' : α → Prop} (hg : Yields text g P) (hP : ∀ a, P a → P' a) :
    Yields text g P' :=
  fun c a c' hc hr => hP a (hg c a c' hc hr)

theorem Yields.map {f : α → β} (hg : Yields text g P) (hf : ∀ a, P a → Q (f a)) :
    Yields text (map f g) Q := by
  intro c b c' hc hr
  obtain ⟨a, ha, rfl⟩ := read_map_iff.mp hr
  exact hf a (hg c a c' hc ha)

theorem Yields.rule (r : ρ) (hg : Yields text g P) :
    Yields text (rule r g) (fun x => P x.value) :=
  fun c x c' hc hr => hg c x.value c' hc (read_rule_iff.mp hr).1

theorem Yields.unplaced (r : ρ) (hg : Yields text g P) :
    Yields text (Grammar.rule r g).unplaced P :=
  (hg.rule r).map fun _ ha => ha

theorem Yields.alt {g' : Grammar ρ α} (hg : Yields text g P) (hg' : Yields text g' P) :
    Yields text (alt g g') P := by
  intro c a c' hc hr
  rcases read_alt_iff.mp hr with hr | ⟨-, hr⟩
  · exact hg c a c' hc hr
  · exact hg' c a c' hc hr

theorem Yields.seq (hg : Yields text g P) (hh : Yields text h Q) :
    Yields text (seq g h) (fun x => P x.1 ∧ Q x.2) := by
  intro c x c' hc hr
  obtain ⟨c₁, h₁, h₂⟩ := read_seq_iff.mp hr
  exact ⟨hg c x.1 c₁ hc h₁, hh c₁ x.2 c' (of_read hc h₁) h₂⟩

theorem Yields.both (hg : Yields text g P) (hh : Yields text h Q) :
    Yields text (both g h) (fun x => P x.1 ∧ Q x.2) :=
  (hg.seq ((yields_any gap).seq hh)).map fun _ hx => ⟨hx.1, hx.2.2⟩

theorem Yields.left (hg : Yields text g P) (h : Grammar ρ β) : Yields text (left g h) P :=
  (hg.both (yields_any h)).map fun _ hx => hx.1

theorem Yields.right (g : Grammar ρ α) (hh : Yields text h Q) : Yields text (right g h) Q :=
  ((yields_any g).both hh).map fun _ hx => hx.2

/-- The rounds of a repetition keep to the values of its step. -/
theorem Yields.rounds (hg : Yields text g P) :
    ∀ (fuel : List Char) (acc : List α) (c : Cursor), c.Of text → (∀ a ∈ acc, P a) →
      ∀ a ∈ (rounds g.read fuel acc c).1, P a
  | [], acc, c, _, hacc, a, ha => hacc a (List.mem_reverse.mp ha)
  | _ :: fuel, acc, c, hc, hacc, a, ha => by
    unfold Grammar.rounds at ha
    split at ha
    · exact hacc a (List.mem_reverse.mp ha)
    · rename_i b c' hs
      refine hg.rounds fuel (b :: acc) c' (of_read hc hs) (fun x hx => ?_) a ha
      rcases List.mem_cons.mp hx with rfl | hx
      · exact hg c x c' hc hs
      · exact hacc x hx

theorem Yields.many (hg : Yields text g P) : Yields text (many g) (fun l => ∀ a ∈ l, P a) := by
  intro c l c' hc hr
  have hl := hg.rounds c.rest [] c hc (fun a ha => by cases ha)
  rwa [read_many_iff.mp hr] at hl

theorem Yields.opt (hg : Yields text g P) : Yields text (opt g) (fun x => ∀ a ∈ x, P a) := by
  intro c x c' hc hr a ha
  rcases read_opt_iff.mp hr with ⟨rfl, -, -⟩ | ⟨b, rfl, hb⟩
  · cases ha
  · cases ha
    exact hg c a c' hc hb

/-- **A repetition** reads a list of such values. -/
theorem Yields.star (hg : Yields text g P) : Yields text (star g) (fun l => ∀ a ∈ l, P a) := by
  have hround : Yields text (Grammar.map Prod.snd (Grammar.seq gap g)) P :=
    ((yields_any gap).seq hg).map fun _ hx => hx.2
  refine (hg.seq hround.many).opt.map ?_
  rintro (- | ⟨a, l⟩) hx
  · exact fun a ha => by cases ha
  · obtain ⟨ha, hl⟩ := hx _ rfl
    exact List.forall_mem_cons.mpr ⟨ha, hl⟩

theorem Yields.plus (hg : Yields text g P) :
    Yields text (plus g) (fun l => l ≠ [] ∧ ∀ a ∈ l, P a) :=
  (hg.both hg.star).map fun _ hx => ⟨List.cons_ne_nil _ _, List.forall_mem_cons.mpr hx⟩

/-! ### Spans -/

/-- The part of a text that a span is. -/
def Span.slice (text : List Char) (s : Span) : List Char :=
  (text.drop s.start).take (s.stop - s.start)

/-- What a cursor passes over is the span up to where it stands then. -/
theorem slice_of_skip {c : Cursor} (hc : c.Of text) (n : Nat) :
    Span.slice text ⟨c.pos, (c.skip n).pos⟩ = c.rest.take n := by
  show (text.drop c.pos).take (c.pos + n - c.pos) = _
  rw [Nat.add_sub_cancel_left, hc]

theorem slice_of_run {p : Char → Bool} {c c' : Cursor} {w : List Char} (hc : c.Of text)
    (hr : (run p : Grammar ρ (List Char)).read c = some (w, c')) :
    Span.slice text ⟨c.pos, c'.pos⟩ = w := by
  rw [read_run] at hr
  split at hr
  · cases hr
  · rename_i x xs hx
    cases hr
    have htake := List.prefix_iff_eq_take.mp (List.takeWhile_prefix p (l := c.rest))
    rw [Cursor.skipWhile_eq_skip, slice_of_skip hc, ← htake, hx]

end CardMachine.Grammar
