import CardMachine.Grammar.Basic

/-! # Reading goes forward

A grammar reads from the front of a text and leaves the rest. Here is what a gap leaves
(`afterGap`), and that reading never lengthens the text and mostly shortens it (`length_of_read`).
A repetition has as much fuel as the text has characters, so that is enough for all of its rounds.
Reading passes over some number of characters (`skip_of_read`), so a cursor that is a place of a
text stays one. -/

namespace CardMachine.Grammar

variable {ρ α β : Type} {g : Grammar ρ α} {h : Grammar ρ β} {s : List Char}

/-! ### Gaps -/

/-- What is left of a text after blanks and a comment. -/
def afterGap (s : List Char) : List Char := (Cursor.skipGap ⟨0, s⟩).rest

theorem rest_skipGap (c : Cursor) : c.skipGap.rest = afterGap c.rest := by
  unfold afterGap Cursor.skipGap
  cases hd : c.rest.dropWhile isBlank with
  | nil => simp [Cursor.skipWhile, hd]
  | cons x l => simp only [Cursor.skipWhile, hd]; split <;> rfl

theorem afterGap_eq (s : List Char) :
    afterGap s = match s.dropWhile isBlank with
      | '#' :: l => l.dropWhile fun x => !Text.isLineEnd x
      | l => l := by
  unfold afterGap Cursor.skipGap
  cases hd : s.dropWhile isBlank with
  | nil => simp [Cursor.skipWhile, hd]
  | cons x l =>
    simp only [Cursor.skipWhile, hd]
    by_cases hx : x = '#'
    · subst hx; rfl
    · repeat' split
      all_goals simp_all

/-- Whether a text starts where a gap ends. -/
def Solid (s : List Char) : Prop := ∀ c ∈ s.head?, isBlank c = false ∧ c ≠ '#'

theorem afterGap_of_solid (hs : Solid s) : afterGap s = s := by
  cases s with
  | nil => rfl
  | cons c s =>
    obtain ⟨hb, hc⟩ := hs c rfl
    rw [afterGap_eq, List.dropWhile_cons_of_neg (by simp [hb])]
    split
    · simp_all
    · rfl

theorem eq_false_of_head?_dropWhile {p : Char → Bool} {c : Char}
    (hc : c ∈ (s.dropWhile p).head?) : p c = false := by
  have := List.head?_dropWhile_not p s
  rw [Option.mem_def.mp hc] at this
  simpa using this

theorem solid_of_lineEnd {c : Char} (hc : Text.isLineEnd c = true) : Solid (c :: s) := by
  intro d hd
  cases hd
  rcases (by simpa [Text.isLineEnd] using hc : c = '\n' ∨ c = '\r') with rfl | rfl <;>
    simp [isBlank]

theorem solid_afterGap (s : List Char) : Solid (afterGap s) := by
  rw [afterGap_eq]
  split
  · rename_i l hl
    cases hd : l.dropWhile fun x => !Text.isLineEnd x with
    | nil => simp [Solid]
    | cons c t =>
      have hc := eq_false_of_head?_dropWhile (c := c) (by rw [hd]; rfl)
      exact solid_of_lineEnd (by simpa using hc)
  · rename_i l hl
    intro c hc
    refine ⟨eq_false_of_head?_dropWhile hc, ?_⟩
    rintro rfl
    obtain ⟨t, ht⟩ := List.head?_eq_some_iff.mp (Option.mem_def.mp hc)
    exact hl t ht

theorem afterGap_afterGap (s : List Char) : afterGap (afterGap s) = afterGap s :=
  afterGap_of_solid (solid_afterGap s)

theorem length_afterGap_le (s : List Char) : (afterGap s).length ≤ s.length := by
  have hd := (List.dropWhile_sublist isBlank (l := s)).length_le
  rw [afterGap_eq]
  split
  · rename_i l hl
    have := (List.dropWhile_sublist (fun x => !Text.isLineEnd x) (l := l)).length_le
    rw [hl] at hd
    simp only [List.length_cons] at hd
    omega
  · exact hd

/-! ### Reading consumes -/

/-- Whether a grammar matches only texts with at least one character. -/
def consumes : {α : Type} → Grammar ρ α → Bool
  | _, char _ => true
  | _, word w => !w.isEmpty
  | _, run _ => true
  | _, gap => false
  | _, finish => false
  | _, seq g h => g.consumes || h.consumes
  | _, alt g h => g.consumes && h.consumes
  | _, opt _ => false
  | _, many _ => false
  | _, peek _ => false
  | _, rule _ g => g.consumes
  | _, map _ g => g.consumes

theorem length_rounds_le {step : Cursor → Option (α × Cursor)}
    (hstep : ∀ c a c', step c = some (a, c') → c'.rest.length ≤ c.rest.length) :
    ∀ (fuel : List Char) (acc : List α) (c : Cursor),
      (rounds step fuel acc c).2.rest.length ≤ c.rest.length
  | [], _, _ => Nat.le_refl _
  | _ :: fuel, acc, c => by
    unfold rounds
    split
    · exact Nat.le_refl _
    · rename_i a c' hs
      exact Nat.le_trans (length_rounds_le hstep fuel _ c') (hstep _ _ _ hs)

/-- **Reading goes forward**: what is left is not longer, and shorter if the grammar consumes. -/
theorem length_of_read : ∀ {α : Type} (g : Grammar ρ α) {c c' : Cursor} {a : α},
    g.read c = some (a, c') →
      c'.rest.length ≤ c.rest.length ∧ (g.consumes = true → c'.rest.length < c.rest.length)
  | _, char p, c, c', a, hr => by
    rw [read_char] at hr
    split at hr
    · cases hr
    · split at hr
      · cases hr; simp_all
      · cases hr
  | _, word w, c, c', a, hr => by
    rw [read_word] at hr
    split at hr
    · rename_i hw
      cases hr
      have hl := (List.isPrefixOf_iff_prefix.mp hw).length_le
      refine ⟨by simp [Cursor.skip], fun hc => ?_⟩
      cases w with
      | nil => simp [consumes] at hc
      | cons x w => simp only [Cursor.skip, List.length_drop, List.length_cons] at hl ⊢; omega
    · cases hr
  | _, run p, c, c', a, hr => by
    rw [read_run] at hr
    split at hr
    · cases hr
    · rename_i x xs hx
      cases hr
      have he := congrArg List.length (List.takeWhile_append_dropWhile (p := p) (l := c.rest))
      rw [hx] at he
      simp only [List.length_append, List.length_cons] at he
      simp only [Cursor.skipWhile]
      exact ⟨by omega, fun _ => by omega⟩
  | _, gap, c, c', a, hr => by
    rw [read_gap] at hr
    cases hr
    rw [rest_skipGap]
    exact ⟨length_afterGap_le _, fun hc => by simp [consumes] at hc⟩
  | _, finish, c, c', a, hr => by
    rw [read_finish] at hr
    split at hr
    · cases hr; exact ⟨Nat.le_refl _, fun hc => by simp [consumes] at hc⟩
    · cases hr
  | _, seq g h, c, c', a, hr => by
    obtain ⟨c₁, h₁, h₂⟩ := read_seq_iff.mp hr
    have l₁ := length_of_read g h₁
    have l₂ := length_of_read h h₂
    refine ⟨by omega, fun hc => ?_⟩
    rcases (by simpa [consumes] using hc : g.consumes = true ∨ h.consumes = true) with hc | hc
    · have := l₁.2 hc; omega
    · have := l₂.2 hc; omega
  | _, alt g h, c, c', a, hr => by
    have hcons : (alt g h).consumes = true → g.consumes = true ∧ h.consumes = true := by
      simp [consumes]
    rcases read_alt_iff.mp hr with hr | ⟨-, hr⟩
    · have l := length_of_read g hr
      exact ⟨l.1, fun hc => l.2 (hcons hc).1⟩
    · have l := length_of_read h hr
      exact ⟨l.1, fun hc => l.2 (hcons hc).2⟩
  | _, opt g, c, c', a, hr => by
    refine ⟨?_, fun hc => by simp [consumes] at hc⟩
    rcases read_opt_iff.mp hr with ⟨-, rfl, -⟩ | ⟨x, -, hr⟩
    · exact Nat.le_refl _
    · exact (length_of_read g hr).1
  | _, many g, c, c', a, hr => by
    refine ⟨?_, fun hc => by simp [consumes] at hc⟩
    have hl := length_rounds_le (fun _ _ _ h₁ => (length_of_read g h₁).1) c.rest [] c
    rw [read_many_iff.mp hr] at hl
    exact hl
  | _, peek g, c, c', a, hr => by
    obtain ⟨rfl, -⟩ := read_peek_iff.mp hr
    exact ⟨Nat.le_refl _, fun hc => by simp [consumes] at hc⟩
  | _, rule r g, c, c', a, hr => length_of_read g (read_rule_iff.mp hr).1
  | _, map f g, c, c', a, hr => by
    obtain ⟨x, hr, -⟩ := read_map_iff.mp hr
    exact length_of_read g hr

/-! ### Places -/

namespace Cursor

/-- Whether the cursor is a place of the text. -/
def Of (text : List Char) (c : Cursor) : Prop := c.rest = text.drop c.pos

theorem of_start (text : List Char) : Of text ⟨0, text⟩ := rfl

theorem Of.skip {text : List Char} {c : Cursor} (hc : c.Of text) (n : Nat) :
    (c.skip n).Of text := by
  show c.rest.drop n = text.drop (c.pos + n)
  rw [hc, List.drop_drop]

theorem skip_zero (c : Cursor) : c.skip 0 = c := rfl

theorem skip_skip (c : Cursor) (m n : Nat) : (c.skip m).skip n = c.skip (m + n) := by
  simp only [skip, List.drop_drop, Nat.add_assoc]

theorem skipWhile_eq_skip (p : Char → Bool) (c : Cursor) :
    c.skipWhile p = c.skip (c.rest.takeWhile p).length := by
  have hdrop : (c.rest.takeWhile p ++ c.rest.dropWhile p).drop (c.rest.takeWhile p).length =
      c.rest.dropWhile p := List.drop_left
  rw [List.takeWhile_append_dropWhile] at hdrop
  rw [skipWhile, skip, hdrop]

end Cursor

theorem skip_of_rounds {step : Cursor → Option (α × Cursor)}
    (hstep : ∀ c a c', step c = some (a, c') → ∃ n, c' = c.skip n) :
    ∀ (fuel : List Char) (acc : List α) (c : Cursor), ∃ n, (rounds step fuel acc c).2 = c.skip n
  | [], _, c => ⟨0, c.skip_zero.symm⟩
  | _ :: fuel, acc, c => by
    unfold rounds
    split
    · exact ⟨0, c.skip_zero.symm⟩
    · rename_i a c' hs
      obtain ⟨m, rfl⟩ := hstep _ _ _ hs
      obtain ⟨n, hn⟩ := skip_of_rounds hstep fuel (a :: acc) (c.skip m)
      exact ⟨m + n, by rw [hn, Cursor.skip_skip]⟩

/-- **Reading passes over characters.** -/
theorem skip_of_read : ∀ {α : Type} (g : Grammar ρ α) {c c' : Cursor} {a : α},
    g.read c = some (a, c') → ∃ n, c' = c.skip n
  | _, char p, c, c', a, hr => by
    rw [read_char] at hr
    split at hr
    · cases hr
    · rename_i x rest hx
      split at hr
      · cases hr
        exact ⟨1, by rw [Cursor.skip, hx]; rfl⟩
      · cases hr
  | _, word w, c, c', a, hr => by
    rw [read_word] at hr
    split at hr
    · cases hr; exact ⟨_, rfl⟩
    · cases hr
  | _, run p, c, c', a, hr => by
    rw [read_run] at hr
    split at hr
    · cases hr
    · cases hr; exact ⟨_, c.skipWhile_eq_skip p⟩
  | _, gap, c, c', a, hr => by
    rw [read_gap] at hr
    cases hr
    unfold Cursor.skipGap
    simp only [Cursor.skipWhile_eq_skip]
    split
    · exact ⟨_, Cursor.skip_skip _ _ _⟩
    · exact ⟨_, rfl⟩
  | _, finish, c, c', a, hr => by
    rw [read_finish] at hr
    split at hr
    · cases hr; exact ⟨0, c.skip_zero.symm⟩
    · cases hr
  | _, seq g h, c, c', a, hr => by
    obtain ⟨c₁, h₁, h₂⟩ := read_seq_iff.mp hr
    obtain ⟨m, rfl⟩ := skip_of_read g h₁
    obtain ⟨n, rfl⟩ := skip_of_read h h₂
    exact ⟨m + n, Cursor.skip_skip _ _ _⟩
  | _, alt g h, c, c', a, hr => by
    rcases read_alt_iff.mp hr with hr | ⟨-, hr⟩
    · exact skip_of_read g hr
    · exact skip_of_read h hr
  | _, opt g, c, c', a, hr => by
    rcases read_opt_iff.mp hr with ⟨-, rfl, -⟩ | ⟨x, -, hr⟩
    · exact ⟨0, c'.skip_zero.symm⟩
    · exact skip_of_read g hr
  | _, many g, c, c', a, hr => by
    have hl := skip_of_rounds (fun _ _ _ h₁ => skip_of_read g h₁) c.rest [] c
    rw [read_many_iff.mp hr] at hl
    exact hl
  | _, peek g, c, c', a, hr => by
    obtain ⟨rfl, -⟩ := read_peek_iff.mp hr
    exact ⟨0, c'.skip_zero.symm⟩
  | _, rule r g, c, c', a, hr => skip_of_read g (read_rule_iff.mp hr).1
  | _, map f g, c, c', a, hr => by
    obtain ⟨x, hr, -⟩ := read_map_iff.mp hr
    exact skip_of_read g hr

theorem of_read {text : List Char} {c c' : Cursor} {a : α} (hc : c.Of text)
    (hr : g.read c = some (a, c')) : c'.Of text := by
  obtain ⟨n, rfl⟩ := skip_of_read g hr
  exact hc.skip n

end CardMachine.Grammar
