import CardMachine.Proofs.Grammar.Consume
import Mathlib.Data.List.Forall2

/-! # What a grammar reads from a text

`Reads g s P t` says that `g` reads a value with the property `P` from the front of `s`, and that
after a gap `t` is left. Almost all parts of a grammar have gaps between them, and a repetition may
or may not have passed over the gap behind its last round, so what is left is compared after a gap:
then one part after the other is read as if there were no gaps at all (`Reads.both`). `Fails g s`
says that `g` does not match.

A repetition goes on until a round fails. `Rounds g R s l t` says that its rounds read from `s` one
value for each member of `l`, related to it by `R`, and leave `t`, where `g` fails. -/

namespace CardMachine.Grammar

variable {ρ α β γ : Type} {g : Grammar ρ α} {h : Grammar ρ β} {s t u : List Char}
  {P : α → Prop} {Q : β → Prop}

/-! ### Reading and failing -/

/-- `g` reads a value with `P` from the front of `s`, and after a gap `t` is left. -/
def Reads (g : Grammar ρ α) (s : List Char) (P : α → Prop) (t : List Char) : Prop :=
  ∀ n, ∃ a c, g.read ⟨n, s⟩ = some (a, c) ∧ P a ∧ afterGap c.rest = t

/-- `g` does not match the front of `s`. -/
def Fails (g : Grammar ρ α) (s : List Char) : Prop := ∀ n, g.read ⟨n, s⟩ = none

theorem fails_iff : Fails g s ↔ ∀ n a c, g.read ⟨n, s⟩ ≠ some (a, c) := by
  simp only [Fails, Option.eq_none_iff_forall_ne_some, Prod.forall]

theorem Reads.read_eq (hg : Reads g s P t) (c : Cursor) (hc : c.rest = s) :
    ∃ a c', g.read c = some (a, c') ∧ P a ∧ afterGap c'.rest = t := by
  subst hc; exact hg c.pos

theorem Fails.read_eq (hg : Fails g s) (c : Cursor) (hc : c.rest = s) : g.read c = none := by
  subst hc; exact hg c.pos

theorem Reads.afterGap_eq (hg : Reads g s P t) : afterGap t = t := by
  obtain ⟨a, c, -, -, rfl⟩ := hg 0
  exact afterGap_afterGap _

theorem Reads.imp {P' : α → Prop} (hg : Reads g s P t) (hP : ∀ a, P a → P' a) :
    Reads g s P' t := by
  intro n
  obtain ⟨a, c, hr, ha, hc⟩ := hg n
  exact ⟨a, c, hr, hP a ha, hc⟩

theorem Reads.length_lt (hg : Reads g s P t) (hc : g.consumes = true) : t.length < s.length := by
  obtain ⟨a, c, hr, -, rfl⟩ := hg 0
  have h₁ := (length_of_read g hr).2 hc
  have h₂ := length_afterGap_le c.rest
  dsimp only at h₁
  omega

/-! ### Leaves -/

theorem reads_char {p : Char → Bool} {x : Char} (hx : p x = true) :
    Reads (char p : Grammar ρ Char) (x :: s) (· = x) (afterGap s) := by
  intro n
  exact ⟨x, ⟨n + 1, s⟩, by rw [read_char]; simp [hx], rfl, rfl⟩

theorem fails_char {p : Char → Bool} (hs : ∀ x ∈ s.head?, p x = false) :
    Fails (char p : Grammar ρ Char) s := by
  intro n
  cases s with
  | nil => rfl
  | cons x s => rw [read_char]; simp [hs x rfl]

theorem reads_word (w s : List Char) :
    Reads (word w : Grammar ρ Unit) (w ++ s) (fun _ => True) (afterGap s) := by
  intro n
  refine ⟨(), ⟨n + w.length, s⟩, ?_, trivial, rfl⟩
  rw [read_word, if_pos (List.isPrefixOf_iff_prefix.mpr (List.prefix_append w s))]
  simp [Cursor.skip]

theorem fails_word {w : List Char} (hw : ¬ w <+: s) : Fails (word w : Grammar ρ Unit) s := by
  intro n
  rw [read_word, if_neg (fun h => hw (List.isPrefixOf_iff_prefix.mp h))]

theorem reads_run {p : Char → Bool} {w : List Char} (hne : w ≠ []) (hw : ∀ c ∈ w, p c = true)
    (hs : ∀ c ∈ s.head?, p c = false) :
    Reads (run p : Grammar ρ (List Char)) (w ++ s) (· = w) (afterGap s) := by
  intro n
  have ht : (w ++ s).takeWhile p = w := by
    rw [List.takeWhile_append_of_pos hw]
    cases s with
    | nil => simp
    | cons c s => simp [hs c rfl]
  have hd : (w ++ s).dropWhile p = s := by
    rw [List.dropWhile_append_of_pos hw]
    cases s with
    | nil => simp
    | cons c s => simp [hs c rfl]
  obtain ⟨x, xs, rfl⟩ := List.exists_cons_of_ne_nil hne
  refine ⟨x :: xs, Cursor.skipWhile p ⟨n, x :: xs ++ s⟩, ?_, rfl, ?_⟩
  · rw [read_run]; dsimp only; rw [ht]
  · rw [Cursor.skipWhile, hd]

theorem fails_run {p : Char → Bool} (hs : ∀ x ∈ s.head?, p x = false) :
    Fails (run p : Grammar ρ (List Char)) s := by
  intro n
  cases s with
  | nil => rfl
  | cons x s => rw [read_run]; simp [hs x rfl]

theorem reads_finish : Reads (finish : Grammar ρ Unit) [] (fun _ => True) [] := fun n =>
  ⟨(), ⟨n, []⟩, rfl, trivial, rfl⟩

/-! ### Parts -/

theorem Reads.map {f : α → β} (hg : Reads g s P t) (hf : ∀ a, P a → Q (f a)) :
    Reads (map f g) s Q t := by
  intro n
  obtain ⟨a, c, hr, ha, hc⟩ := hg n
  exact ⟨f a, c, read_map_iff.mpr ⟨a, hr, rfl⟩, hf a ha, hc⟩

theorem Reads.rule (r : ρ) (hg : Reads g s P t) : Reads (rule r g) s (fun x => P x.value) t := by
  intro n
  obtain ⟨a, c, hr, ha, hc⟩ := hg n
  exact ⟨⟨a, ⟨n, c.pos⟩⟩, c, read_rule_iff.mpr ⟨hr, rfl⟩, ha, hc⟩

theorem Reads.unplaced (r : ρ) (hg : Reads g s P t) : Reads (Grammar.rule r g).unplaced s P t :=
  (hg.rule r).map fun _ ha => ha

theorem Reads.altLeft {g' : Grammar ρ α} (hg : Reads g s P t) : Reads (alt g g') s P t := by
  intro n
  obtain ⟨a, c, hr, ha, hc⟩ := hg n
  exact ⟨a, c, read_alt_iff.mpr (.inl hr), ha, hc⟩

theorem Reads.altRight {g' : Grammar ρ α} (hg : Fails g s) (hg' : Reads g' s P t) :
    Reads (alt g g') s P t := by
  intro n
  obtain ⟨a, c, hr, ha, hc⟩ := hg' n
  exact ⟨a, c, read_alt_iff.mpr (.inr ⟨hg n, hr⟩), ha, hc⟩

theorem Reads.peek (hg : Reads g s P t) : Reads (peek g) s (fun _ => True) (afterGap s) := by
  intro n
  obtain ⟨a, c, hr, -, -⟩ := hg n
  exact ⟨(), ⟨n, s⟩, read_peek_iff.mpr ⟨rfl, _, hr⟩, trivial, rfl⟩

theorem Reads.behindGap (hg : Reads g (afterGap s) P t) :
    Reads (Grammar.map Prod.snd (seq gap g)) s P t := by
  intro n
  obtain ⟨a, c, hr, ha, hc⟩ := hg.read_eq (Cursor.skipGap ⟨n, s⟩) (rest_skipGap _)
  exact ⟨a, c, read_map_iff.mpr ⟨((), a), read_seq_iff.mpr ⟨_, read_gap _, hr⟩, rfl⟩, ha, hc⟩

/-- **One after the other**, with a gap between. -/
theorem Reads.both (hg : Reads g s P t) (hh : Reads h t Q u) :
    Reads (both g h) s (fun x => P x.1 ∧ Q x.2) u := by
  intro n
  obtain ⟨a, c, hr, ha, hc⟩ := hg n
  obtain ⟨b, c', hr', hb, hc'⟩ := hh.read_eq c.skipGap (by rw [rest_skipGap, hc])
  refine ⟨(a, b), c', ?_, ⟨ha, hb⟩, hc'⟩
  refine read_map_iff.mpr ⟨(a, (), b), ?_, rfl⟩
  exact read_seq_iff.mpr ⟨c, hr, read_seq_iff.mpr ⟨c.skipGap, rfl, hr'⟩⟩

theorem Reads.left (hg : Reads g s P t) (hh : Reads h t Q u) : Reads (left g h) s P u :=
  (hg.both hh).map fun _ ha => ha.1

theorem Reads.right (hg : Reads g s P t) (hh : Reads h t Q u) : Reads (right g h) s Q u :=
  (hg.both hh).map fun _ ha => ha.2

theorem Fails.map {f : α → β} (hg : Fails g s) : Fails (map f g) s := by
  refine fails_iff.mpr fun n b c hr => ?_
  obtain ⟨a, hr, -⟩ := read_map_iff.mp hr
  exact fails_iff.mp hg n a c hr

theorem Fails.rule (r : ρ) (hg : Fails g s) : Fails (rule r g) s :=
  fails_iff.mpr fun n _ c hr => fails_iff.mp hg n _ c (read_rule_iff.mp hr).1

theorem Fails.alt {g' : Grammar ρ α} (hg : Fails g s) (hg' : Fails g' s) :
    Fails (alt g g') s := by
  refine fails_iff.mpr fun n a c hr => ?_
  rcases read_alt_iff.mp hr with hr | ⟨-, hr⟩
  · exact fails_iff.mp hg n a c hr
  · exact fails_iff.mp hg' n a c hr

theorem Fails.seq (hg : Fails g s) : Fails (seq g h) s := by
  refine fails_iff.mpr fun n x c hr => ?_
  obtain ⟨c₁, hr, -⟩ := read_seq_iff.mp hr
  exact fails_iff.mp hg n x.1 c₁ hr

theorem Fails.both (hg : Fails g s) : Fails (both g h) s := hg.seq.map

theorem Fails.behindGap (hg : Fails g (afterGap s)) :
    Fails (Grammar.map Prod.snd (Grammar.seq gap g)) s := by
  refine Fails.map (fails_iff.mpr fun n x c hr => ?_)
  obtain ⟨c₁, h₁, h₂⟩ := read_seq_iff.mp hr
  rw [read_gap] at h₁
  cases h₁
  rw [hg.read_eq _ (rest_skipGap _)] at h₂
  cases h₂

theorem Fails.peek (hg : Fails g s) : Fails (peek g) s := by
  refine fails_iff.mpr fun n _ c hr => ?_
  obtain ⟨-, r, hr⟩ := read_peek_iff.mp hr
  exact fails_iff.mp hg n r.1 r.2 hr

theorem fails_finish (hs : s ≠ []) : Fails (finish : Grammar ρ Unit) s := by
  intro n
  rw [read_finish, if_neg (by simpa using hs)]

theorem Reads.failsBoth (hg : Reads g s P t) (hh : Fails h t) : Fails (Grammar.both g h) s := by
  refine Fails.map (fails_iff.mpr fun n x c hr => ?_)
  obtain ⟨c₁, hr₁, hr⟩ := read_seq_iff.mp hr
  obtain ⟨c₂, hr₂, hr⟩ := read_seq_iff.mp hr
  obtain ⟨a, c', hr', -, hc⟩ := hg n
  rw [hr₁] at hr'
  rw [read_gap] at hr₂
  cases hr'
  cases hr₂
  rw [hh.read_eq _ (by rw [rest_skipGap, hc])] at hr
  cases hr

/-! ### Repetitions -/

/-- The rounds of a repetition, one for each member of a list. -/
inductive Rounds (g : Grammar ρ α) (R : α → γ → Prop) :
    List Char → List γ → List Char → Prop where
  | stop {t : List Char} (hg : Fails g t) : Rounds g R t [] t
  | round {s t u : List Char} {x : γ} {l : List γ} (hg : Reads g s (R · x) t)
      (hl : Rounds g R t l u) : Rounds g R s (x :: l) u

variable {R : α → γ → Prop} {l : List γ}

theorem Rounds.length_le (hc : g.consumes = true) (hr : Rounds g R s l t) :
    l.length ≤ s.length := by
  induction hr with
  | stop => exact Nat.zero_le _
  | round hg _ ih =>
    have := hg.length_lt hc
    rw [List.length_cons]
    omega

/-- The rounds of the repetition proper, each with the gap before it. The gap before the round that
fails is not passed over. -/
theorem rounds_eq (hr : Rounds g R s l t) : ∀ (fuel : List Char) (acc : List α) (c : Cursor),
    l.length ≤ fuel.length → afterGap c.rest = s →
      ∃ as c', rounds (map Prod.snd (seq gap g)).read fuel acc c = (acc.reverse ++ as, c') ∧
        List.Forall₂ R as l ∧ afterGap c'.rest = t := by
  induction hr with
  | @stop t hg =>
    intro fuel acc c _ hc
    refine ⟨[], c, ?_, .nil, hc⟩
    cases fuel with
    | nil => simp [rounds]
    | cons f fuel =>
      have hn : (map Prod.snd (seq gap g)).read c = none := by
        refine Option.eq_none_iff_forall_ne_some.mpr fun x hx => ?_
        obtain ⟨a, ha, -⟩ := read_map_iff.mp hx
        obtain ⟨c₁, h₁, h₂⟩ := read_seq_iff.mp ha
        cases h₁
        rw [hg.read_eq _ (by rw [rest_skipGap, hc])] at h₂
        cases h₂
      rw [rounds, hn]
      simp
  | @round s t u x l hg _ ih =>
    intro fuel acc c hle hc
    cases fuel with
    | nil => simp at hle
    | cons f fuel =>
      obtain ⟨a, c₁, hr, ha, hc₁⟩ := hg.read_eq c.skipGap (by rw [rest_skipGap, hc])
      obtain ⟨as, c', hrs, has, hc'⟩ := ih fuel (a :: acc) c₁ (by simpa using hle) hc₁
      refine ⟨a :: as, c', ?_, .cons ha has, hc'⟩
      have hs : (map Prod.snd (seq gap g)).read c = some (a, c₁) :=
        read_map_iff.mpr ⟨((), a), read_seq_iff.mpr ⟨c.skipGap, rfl, hr⟩, rfl⟩
      rw [rounds, hs]
      simpa using hrs

/-- **A repetition** reads its rounds. -/
theorem Rounds.star (hc : g.consumes = true) (hs : afterGap s = s) (hr : Rounds g R s l t) :
    Reads (star g) s (List.Forall₂ R · l) t := by
  intro n
  cases hr with
  | stop hg =>
    refine ⟨[], ⟨n, s⟩, ?_, .nil, hs⟩
    exact read_map_iff.mpr ⟨none, read_opt_iff.mpr (.inl ⟨rfl, rfl, fails_iff.mpr
      (fun n x c h => by
        obtain ⟨c₁, h₁, -⟩ := read_seq_iff.mp h
        exact fails_iff.mp hg n _ _ h₁) n⟩), rfl⟩
  | @round _ t' _ x l hg hl =>
    obtain ⟨a, c, hr, ha, hc'⟩ := hg n
    have hle : l.length ≤ c.rest.length :=
      Nat.le_trans (hl.length_le hc) (hc' ▸ length_afterGap_le c.rest)
    obtain ⟨as, c', hrs, has, hct⟩ := rounds_eq hl c.rest [] c hle hc'
    refine ⟨a :: as, c', ?_, .cons ha has, hct⟩
    refine read_map_iff.mpr ⟨some (a, as), read_opt_iff.mpr (.inr ⟨(a, as), rfl, ?_⟩), rfl⟩
    exact read_seq_iff.mpr ⟨c, hr, read_many_iff.mpr hrs⟩

/-- A repetition of at least one round. -/
theorem Rounds.plus {x : γ} (hc : g.consumes = true) (hr : Rounds g R s (x :: l) t) :
    Reads (plus g) s (List.Forall₂ R · (x :: l)) t := by
  cases hr with
  | round hg hl =>
    exact (hg.both (hl.star hc hg.afterGap_eq)).map fun _ ha => .cons ha.1 ha.2

end CardMachine.Grammar
