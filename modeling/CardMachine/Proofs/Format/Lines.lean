import CardMachine.Proofs.Format.Layout
import CardMachine.Proofs.Grammar.Consume
import Mathlib.Data.List.DropRight

/-! # Where the lines of a text begin

`settle false s` is what is left of `s` after line ends, blanks and comments: the place where the
next line with words begins. It is read one character at a time, with the knowledge whether it is
inside a comment, so it can be compared with a text whose end was cut off.

`Begins ls s` says that the next lines of `s` are `ls`, one after the other, and nothing but empty
lines and comments is left after them. Every layout begins with its lines, and it still does after
it has been trimmed (`begins_trim`): trimming takes away empty lines and blanks, and at most the end
of a last comment. -/

namespace CardMachine.Format

open Text (isLineEnd isSpace trim trimRight)
open Grammar (isBlank afterGap)

variable {s z w : List Char}

/-! ### White space -/

theorem isSpace_of_isBlank {c : Char} (h : isBlank c = true) : isSpace c = true := by
  rcases (by simpa [isBlank] using h : c = ' ' ∨ c = '\t') with rfl | rfl <;> decide

theorem isSpace_of_isLineEnd {c : Char} (h : isLineEnd c = true) : isSpace c = true := by
  rcases (by simpa [isLineEnd] using h : c = '\n' ∨ c = '\r') with rfl | rfl <;> decide

theorem isBlank_eq_false {c : Char} (h : isSpace c = false) : isBlank c = false := by
  cases hb : isBlank c with
  | false => rfl
  | true => rw [isSpace_of_isBlank hb] at h; cases h

theorem isLineEnd_eq_false {c : Char} (h : isSpace c = false) : isLineEnd c = false := by
  cases hb : isLineEnd c with
  | false => rfl
  | true => rw [isSpace_of_isLineEnd hb] at h; cases h

/-! ### The beginning of the next line -/

/-- What is left after line ends, blanks and comments. The text may start inside a comment. -/
def settle : (inside : Bool) → List Char → List Char
  | _, [] => []
  | true, c :: s => settle (!isLineEnd c) s
  | false, c :: s =>
    if isBlank c || isLineEnd c then settle false s
    else if c = '#' then settle true s
    else c :: s

theorem settle_cons_of_skip {c : Char} (h : isBlank c = true ∨ isLineEnd c = true) :
    settle false (c :: s) = settle false s := by
  rw [settle, if_pos (by simpa using h)]

theorem settle_cons_comment : settle false ('#' :: s) = settle true s := rfl

theorem settle_cons_of_solid {c : Char} (h : isSpace c = false ∧ c ≠ '#') :
    settle false (c :: s) = c :: s := by
  rw [settle, if_neg (by simp [isBlank_eq_false h.1, isLineEnd_eq_false h.1]), if_neg h.2]

theorem settle_blanks_append : ∀ {b : List Char}, Blanks b → settle false (b ++ s) = settle false s
  | [], _ => rfl
  | c :: b, h => by
    rw [List.cons_append, settle_cons_of_skip (.inl (h c List.mem_cons_self)),
      settle_blanks_append fun x hx => h x (List.mem_cons_of_mem _ hx)]

/-- A comment ends where its line does. -/
theorem settle_inside : ∀ s : List Char,
    settle true s = settle false (s.dropWhile fun c => !isLineEnd c)
  | [] => rfl
  | c :: s => by
    cases hc : isLineEnd c with
    | true =>
      rw [List.dropWhile_cons_of_neg (by simp [hc]), settle_cons_of_skip (.inr hc), settle, hc]
      rfl
    | false =>
      rw [List.dropWhile_cons_of_pos (by simp [hc]), settle, hc]
      exact settle_inside s

theorem blanks_takeWhile (s : List Char) : Blanks (s.takeWhile isBlank) := fun _ hc =>
  List.mem_takeWhile_imp hc

theorem settle_afterGap (s : List Char) : settle false (afterGap s) = settle false s := by
  have hs : settle false s = settle false (s.dropWhile isBlank) := by
    conv_lhs => rw [← List.takeWhile_append_dropWhile (p := isBlank) (l := s)]
    exact settle_blanks_append (blanks_takeWhile s)
  rw [hs, Grammar.afterGap_eq]
  split
  · rename_i l hl
    rw [hl, settle_cons_comment, settle_inside]
  · rfl

/-- The next line begins where no gap is and no line ends. -/
theorem solid_settle : ∀ (b : Bool) (s : List Char), ∀ c ∈ (settle b s).head?,
    isBlank c = false ∧ isLineEnd c = false ∧ c ≠ '#'
  | _, [], c, hc => by simp [settle] at hc
  | true, x :: s, c, hc => solid_settle (!isLineEnd x) s c hc
  | false, x :: s, c, hc => by
    rw [settle] at hc
    split at hc
    · exact solid_settle false s c hc
    · rename_i hx
      split at hc
      · exact solid_settle true s c hc
      · rename_i hne
        cases hc
        simp only [Bool.or_eq_true, not_or, Bool.not_eq_true] at hx
        exact ⟨hx.1, hx.2, hne⟩

theorem afterGap_settle (b : Bool) (s : List Char) : afterGap (settle b s) = settle b s :=
  Grammar.afterGap_of_solid fun c hc =>
    ⟨(solid_settle b s c hc).1, (solid_settle b s c hc).2.2⟩

/-- A text whose front is passed over is passed over as far as the front goes. -/
theorem settle_eq_nil_of_append : ∀ {b : Bool} {s t : List Char},
    settle b (s ++ t) = [] → settle b s = []
  | _, [], _, _ => by simp [settle]
  | true, c :: s, t, h => settle_eq_nil_of_append (s := s) (t := t) h
  | false, c :: s, t, h => by
    rw [List.cons_append, settle] at h
    rw [settle]
    split at h
    · rename_i hc; rw [if_pos hc]; exact settle_eq_nil_of_append h
    · rename_i hc
      rw [if_neg hc]
      split at h
      · rename_i hc'; rw [if_pos hc']; exact settle_eq_nil_of_append h
      · cases h

/-- White space before the next line does not matter. -/
theorem settle_dropWhile_isSpace : ∀ {s : List Char},
    (∀ c ∈ (settle false s).head?, isSpace c = false) →
      settle false (s.dropWhile isSpace) = settle false s
  | [], _ => rfl
  | c :: s, h => by
    cases hc : isSpace c with
    | false => rw [List.dropWhile_cons_of_neg (by simp [hc])]
    | true =>
      rw [List.dropWhile_cons_of_pos hc]
      by_cases hskip : isBlank c = true ∨ isLineEnd c = true
      · rw [settle_cons_of_skip hskip] at h ⊢
        exact settle_dropWhile_isSpace h
      · have hne : c ≠ '#' := by rintro rfl; revert hc; decide
        have he : settle false (c :: s) = c :: s := by
          rw [settle, if_neg (by simpa using hskip), if_neg hne]
        rw [he] at h
        rw [h c rfl] at hc
        cases hc

/-! ### Ends of lines -/

/-- The text ends or a line ends. -/
def AtLineEnd (s : List Char) : Prop := ∀ c ∈ s.head?, isLineEnd c = true

theorem atLineEnd_of_settle_eq_nil (h : settle false z = []) : AtLineEnd (afterGap z) := by
  intro c hc
  rw [← settle_afterGap] at h
  obtain ⟨t, ht⟩ := List.head?_eq_some_iff.mp (Option.mem_def.mp hc)
  have hsolid := Grammar.solid_afterGap z c hc
  rw [ht, settle] at h
  by_contra hn
  rw [if_neg (by simp [hsolid.1, hn]), if_neg hsolid.2] at h
  cases h

theorem lineEnd_cons {e : List Char} (he : LineEnd e) :
    ∃ c t, e = c :: t ∧ isLineEnd c = true ∧ ∀ s, settle false (t ++ s) = settle false s := by
  rcases he with rfl | rfl | rfl
  · exact ⟨_, [], rfl, rfl, fun _ => rfl⟩
  · exact ⟨_, ['\n'], rfl, rfl, fun _ => settle_cons_of_skip (.inr rfl)⟩
  · exact ⟨_, [], rfl, rfl, fun _ => rfl⟩

theorem afterGap_blanks_append {b : List Char} (hb : Blanks b) (s : List Char) :
    afterGap (b ++ s) = afterGap s := by
  rw [Grammar.afterGap_eq, Grammar.afterGap_eq, List.dropWhile_append_of_pos hb]

theorem afterGap_dropWhile (s : List Char) : afterGap (s.dropWhile isBlank) = afterGap s := by
  conv_rhs => rw [← List.takeWhile_append_dropWhile (p := isBlank) (l := s)]
  rw [afterGap_blanks_append (blanks_takeWhile s)]

/-- Where a line ends, nothing but a comment or the line end comes after the blanks. -/
theorem AtLineEnd.head?_dropWhile (hz : AtLineEnd (afterGap z)) :
    ∀ c ∈ (z.dropWhile isBlank).head?, c = '#' ∨ isLineEnd c = true := by
  intro c hc
  by_cases hcomment : c = '#'
  · exact .inl hcomment
  · have hsolid : Grammar.Solid (z.dropWhile isBlank) := by
      intro d hd
      obtain rfl : c = d := by rw [Option.mem_def.mp hc] at hd; simpa using hd
      exact ⟨Grammar.eq_false_of_head?_dropWhile hc, hcomment⟩
    rw [← afterGap_dropWhile, Grammar.afterGap_of_solid hsolid] at hz
    exact .inr (hz c hc)

theorem afterGap_comment_append {c : List Char} {x : Char} (hc : Comment c)
    (hx : isLineEnd x = true) (s : List Char) : afterGap (c ++ x :: s) = x :: s := by
  rcases hc with rfl | ⟨t, rfl, ht⟩
  · exact Grammar.afterGap_of_solid (Grammar.solid_of_lineEnd hx)
  · have ht' : ∀ y ∈ t, (!isLineEnd y) = true := fun y hy => by simp [ht y hy]
    rw [Grammar.afterGap_eq]
    show (t ++ x :: s).dropWhile (fun y => !isLineEnd y) = x :: s
    rw [List.dropWhile_append_of_pos ht', List.dropWhile_cons_of_neg (by simp [hx])]

/-- What follows the words of a line ends it. -/
theorem afterGap_lineTail_append (hw : LineTail w) (s : List Char) :
    AtLineEnd (afterGap (w ++ s)) ∧ settle false (w ++ s) = settle false s := by
  cases hw with
  | @intro b c e hb hc he =>
    obtain ⟨x, t, rfl, hx, ht⟩ := lineEnd_cons he
    have hgap : afterGap (b ++ (c ++ x :: t) ++ s) = x :: (t ++ s) := by
      rw [List.append_assoc, List.append_assoc, afterGap_blanks_append hb, List.cons_append,
        afterGap_comment_append hc hx]
    refine ⟨by rw [hgap]; intro y hy; cases hy; exact hx, ?_⟩
    rw [← settle_afterGap, hgap, settle_cons_of_skip (.inr hx), ht]

/-! ### Words -/

/-- A word that neither starts nor ends with white space, and is no comment. -/
structure Crisp (w : List Char) : Prop where
  head : ∃ c t, w = c :: t ∧ isSpace c = false ∧ c ≠ '#'
  last : ∃ t c, w = t ++ [c] ∧ isSpace c = false

/-- Whether all spellings of a word are crisp; those of a symbol are. -/
def Token.Crisp : Token → Prop
  | .text w => Format.Crisp w
  | .symbol _ => True

theorem Crisp.append {v : List Char} (hv : Crisp v) (s : List Char) (hw : Crisp w) :
    Crisp (v ++ (s ++ w)) where
  head := by
    obtain ⟨c, t, rfl, hc⟩ := hv.head
    exact ⟨c, _, rfl, hc⟩
  last := by
    obtain ⟨t, c, rfl, hc⟩ := hw.last
    exact ⟨v ++ (s ++ t), c, by simp, hc⟩

theorem crisp_singleton {c : Char} (h : isSpace c = false) (h' : c ≠ '#') : Crisp [c] :=
  ⟨⟨c, [], rfl, h, h'⟩, ⟨[], c, rfl, h⟩⟩

theorem crisp_of_forall (hne : w ≠ []) (h : ∀ c ∈ w, isSpace c = false ∧ c ≠ '#') : Crisp w where
  head := by
    obtain ⟨c, t, rfl⟩ := List.exists_cons_of_ne_nil hne
    exact ⟨c, t, rfl, h c List.mem_cons_self⟩
  last := by
    obtain ⟨t, c, rfl⟩ := (List.eq_nil_or_concat' w).resolve_left hne
    exact ⟨t, c, rfl, (h c (by simp)).1⟩

theorem crisp_inQuotes (c : Char) : Crisp (inQuotes c) :=
  ⟨⟨_, _, rfl, by decide, by decide⟩, ⟨['\'', c], '\'', rfl, by decide⟩⟩

theorem Spelling.crisp {t : Token} (ht : t.Crisp) (hw : Spelling t w) : Crisp w := by
  cases hw with
  | text => exact ht
  | quoted c => exact crisp_inQuotes c
  | written c =>
    unfold writeSymbol
    split
    · exact crisp_inQuotes c
    · rename_i h
      simp only [needsQuotes, Bool.not_eq_true, Bool.or_eq_false_iff, beq_eq_false_iff_ne] at h
      exact crisp_singleton h.1.1.1.1 h.2

theorem Crisp.settle_append (hw : Crisp w) (s : List Char) : settle false (w ++ s) = w ++ s := by
  obtain ⟨c, t, rfl, hc⟩ := hw.head
  exact settle_cons_of_solid hc

theorem Crisp.afterGap_append (hw : Crisp w) (s : List Char) : afterGap (w ++ s) = w ++ s := by
  obtain ⟨c, t, rfl, hc⟩ := hw.head
  refine Grammar.afterGap_of_solid fun x hx => ?_
  cases hx
  exact ⟨isBlank_eq_false hc.1, hc.2⟩

/-- The words of a line as one piece of text, which can be followed by any other. -/
theorem Spells.crisp {l : List Token} (hs : Spells l s z) (hl : ∀ t ∈ l, t.Crisp) (hne : l ≠ []) :
    ∃ b w, Blanks b ∧ Crisp w ∧ s = b ++ (w ++ z) ∧ ∀ y, Spells l (w ++ y) y := by
  induction hs with
  | nil => exact absurd rfl hne
  | @cons b w s z t ts hb hw hs ih =>
    have hwc := hw.crisp (hl t List.mem_cons_self)
    cases hts : ts with
    | nil =>
      subst hts
      cases hs
      exact ⟨b, w, hb, hwc, rfl, fun y => .cons (b := []) (by simp [Blanks]) hw (.nil y)⟩
    | cons t' ts' =>
      obtain ⟨b', w', hb', hw', rfl, hy⟩ :=
        ih (fun t ht => hl t (List.mem_cons_of_mem _ ht)) (by simp [hts])
      refine ⟨b, w ++ (b' ++ w'), hb, hwc.append b' hw', by simp, fun y => ?_⟩
      have hrest := (hts ▸ hy y).blanks hb'
      have := Spells.cons (b := []) (by simp [Blanks]) hw hrest
      simpa [hts] using this

/-! ### The next lines -/

/-- The next lines of the text, and nothing after them. -/
def Begins : List (List Token) → List Char → Prop
  | [], s => settle false s = []
  | l :: ls, s => ∃ z, Spells l (settle false s) z ∧ AtLineEnd (afterGap z) ∧ Begins ls z

theorem begins_congr {ls : List (List Token)} {s' : List Char}
    (h : settle false s = settle false s') (hs : Begins ls s) : Begins ls s' := by
  cases ls with
  | nil => exact h.symm.trans hs
  | cons l ls =>
    unfold Begins at hs ⊢
    rwa [← h]

/-- The lines of a layout have words, and no word is cut short by a gap. -/
def WellSpaced (ls : List (List Token)) : Prop := ∀ l ∈ ls, l ≠ [] ∧ ∀ t ∈ l, t.Crisp

/-- A layout up to its last word, and what comes after it. Any text that is passed over may take
the place of the latter. -/
theorem Layout.split {ls : List (List Token)} (h : Layout ls s) (hls : WellSpaced ls) :
    ∃ t z, s = t ++ z ∧ settle false z = [] ∧
      ((ls = [] ∧ t = []) ∨ ∃ v c, t = v ++ [c] ∧ isSpace c = false) ∧
      ∀ y, settle false y = [] → Begins ls (t ++ y) := by
  induction h with
  | nil => exact ⟨[], [], rfl, rfl, .inl ⟨rfl, rfl⟩, fun y hy => hy⟩
  | @blank w s ls hw _ ih =>
    obtain ⟨t, z, rfl, hz, ht, hy⟩ := ih hls
    rcases ht with ⟨hnil, rfl⟩ | ⟨v, c, rfl, hc⟩
    · exact ⟨[], w ++ z, rfl, (afterGap_lineTail_append hw z).2.trans hz, .inl ⟨hnil, rfl⟩, hy⟩
    · refine ⟨w ++ (v ++ [c]), z, by simp, hz, .inr ⟨w ++ v, c, by simp, hc⟩, fun y h => ?_⟩
      refine begins_congr ?_ (hy y h)
      rw [List.append_assoc w, (afterGap_lineTail_append hw _).2]
  | @line s w r l ls hl hw _ ih =>
    obtain ⟨t, z, rfl, hz, ht, hy⟩ := ih fun l hl => hls l (List.mem_cons_of_mem _ hl)
    obtain ⟨hne, hcrisp⟩ := hls l List.mem_cons_self
    obtain ⟨b, x, hb, hx, rfl, hxy⟩ := hl.crisp hcrisp hne
    have hset : ∀ y, settle false (b ++ (x ++ y)) = x ++ y := fun y => by
      rw [settle_blanks_append hb, hx.settle_append]
    rcases ht with ⟨-, rfl⟩ | ⟨v, c, rfl, hc⟩
    · obtain ⟨v, c, rfl, hc⟩ := hx.last
      refine ⟨b ++ (v ++ [c]), w ++ z, by simp, (afterGap_lineTail_append hw z).2.trans hz,
        .inr ⟨b ++ v, c, by simp, hc⟩, fun y h => ?_⟩
      refine ⟨y, ?_, atLineEnd_of_settle_eq_nil h, hy y h⟩
      rw [List.append_assoc, hset]
      exact hxy y
    · refine ⟨b ++ (x ++ (w ++ (v ++ [c]))), z, by simp, hz,
        .inr ⟨b ++ (x ++ (w ++ v)), c, by simp, hc⟩, fun y h => ?_⟩
      obtain ⟨hend, hskip⟩ := afterGap_lineTail_append hw (v ++ [c] ++ y)
      refine ⟨w ++ (v ++ [c] ++ y), ?_, hend, begins_congr hskip.symm (hy y h)⟩
      have he : b ++ (x ++ (w ++ (v ++ [c]))) ++ y = b ++ (x ++ (w ++ (v ++ [c] ++ y))) := by simp
      rw [he, hset]
      exact hxy _

/-! ### Trimming -/

theorem dropWhile_append_cons {p : Char → Bool} {c : Char} (hc : p c = false) (v z : List Char) :
    (v ++ c :: z).dropWhile p = v.dropWhile p ++ c :: z := by
  rw [List.dropWhile_append]
  split
  · rename_i h
    rw [List.isEmpty_iff.mp h, List.dropWhile_cons_of_neg (by simp [hc])]
    rfl
  · rfl

theorem trimRight_append_cons {c : Char} (hc : isSpace c = false) (v z : List Char) :
    trimRight (v ++ c :: z) = v ++ c :: trimRight z := by
  unfold trimRight
  have he : (v ++ c :: z).reverse = z.reverse ++ c :: v.reverse := by simp
  rw [he, dropWhile_append_cons hc]
  simp

theorem trim_append_cons {c : Char} (hc : isSpace c = false) (v z : List Char) :
    trim (v ++ c :: z) = v.dropWhile isSpace ++ c :: trimRight z := by
  rw [trim, dropWhile_append_cons hc, trimRight_append_cons hc]

theorem trimRight_append_takeWhile (s : List Char) :
    trimRight s ++ (s.reverse.takeWhile isSpace).reverse = s := by
  rw [trimRight, ← List.reverse_append, List.takeWhile_append_dropWhile, List.reverse_reverse]

/-- A text of which nothing is trimmed neither starts nor ends with white space. -/
theorem crisp_of_trim_eq_self (hne : w ≠ []) (h : trim w = w) (hc : ∀ c ∈ w, c ≠ '#') :
    Crisp w := by
  have hright := congrArg List.length (trimRight_append_takeWhile (w.dropWhile isSpace))
  have hd : w.dropWhile isSpace = w := by
    refine (List.dropWhile_sublist isSpace).eq_of_length_le ?_
    rw [List.length_append, ← trim, h] at hright
    omega
  have hl : w.reverse.dropWhile isSpace = w.reverse := by
    rw [trim, hd, trimRight] at h
    rw [← List.reverse_reverse (w.reverse.dropWhile isSpace), h]
  refine ⟨?_, ?_⟩
  · obtain ⟨c, t, rfl⟩ := List.exists_cons_of_ne_nil hne
    have hs := Grammar.eq_false_of_head?_dropWhile (c := c) (by rw [hd]; rfl)
    exact ⟨c, t, rfl, hs, hc c List.mem_cons_self⟩
  · obtain ⟨t, c, rfl⟩ := (List.eq_nil_or_concat' w).resolve_left hne
    have hs := Grammar.eq_false_of_head?_dropWhile (c := c) (by rw [hl]; simp)
    exact ⟨t, c, rfl, hs⟩

theorem mem_of_mem_trim {c : Char} (h : c ∈ trim s) : c ∈ s := by
  have hr := List.mem_reverse.mp h
  have hd := List.mem_reverse.mp ((List.dropWhile_sublist isSpace).mem hr)
  exact (List.dropWhile_sublist isSpace).mem hd

theorem head?_trim : ∀ c ∈ (trim s).head?, isSpace c = false := by
  intro c hc
  obtain ⟨t, ht⟩ := List.head?_eq_some_iff.mp (Option.mem_def.mp hc)
  have hs := trimRight_append_takeWhile (s.dropWhile isSpace)
  rw [← trim, ht] at hs
  exact Grammar.eq_false_of_head?_dropWhile (p := isSpace) (s := s) (by rw [← hs]; rfl)

/-- Nothing is left to trim after trimming. -/
theorem trim_trim (s : List Char) : trim (trim s) = trim s := by
  have hd : (trim s).dropWhile isSpace = trim s := by
    cases ht : trim s with
    | nil => rfl
    | cons c t =>
      have hc : isSpace c = false := head?_trim c (by rw [ht]; rfl)
      exact List.dropWhile_cons_of_neg (by simp [hc])
  rw [trim, hd]
  show trimRight (trimRight (s.dropWhile isSpace)) = _
  rw [trimRight, trimRight, List.reverse_reverse, List.dropWhile_idempotent]
  rfl

/-- **A trimmed layout begins with its lines.** -/
theorem begins_trim {l : List Token} {ls : List (List Token)} (h : Layout (l :: ls) s)
    (hls : WellSpaced (l :: ls)) : Begins (l :: ls) (trim s) := by
  obtain ⟨t, z, rfl, hz, ht, hy⟩ := h.split hls
  obtain ⟨v, c, rfl, hc⟩ := ht.resolve_left (by simp)
  have hz' : settle false (trimRight z) = [] := by
    rw [← trimRight_append_takeWhile z] at hz
    exact settle_eq_nil_of_append hz
  have hb := hy (trimRight z) hz'
  rw [List.append_assoc, List.singleton_append, trim_append_cons hc, ← dropWhile_append_cons hc]
  rw [List.append_assoc, List.singleton_append] at hb
  refine begins_congr (settle_dropWhile_isSpace ?_).symm hb
  -- the next line begins with a word, so trimming stops before it
  obtain ⟨y, hl, -⟩ := hb
  obtain ⟨hne, hcrisp⟩ := hls l List.mem_cons_self
  obtain ⟨b, w, hbl, hw, he, -⟩ := hl.crisp hcrisp hne
  intro x hx
  cases b with
  | nil =>
    obtain ⟨d, t, rfl, hd, -⟩ := hw.head
    rw [he] at hx
    cases hx
    exact hd
  | cons d b =>
    have hd := (solid_settle false _ d (by rw [he]; rfl)).1
    rw [hbl d List.mem_cons_self] at hd
    cases hd

end CardMachine.Format
