import CardMachine.Format.Rules
import CardMachine.Proofs.Format.Lines
import CardMachine.Proofs.Grammar.Reads

/-! # Reading the words of a line

A line of a layout is read word by word. After each word what is left, up to a gap, is the rest of
the line, so every statement is about `afterGap s` where the words still to come stand at the front
of `s`. A number ends where no digit follows and the rest of a line where a comment or the line end
does; the words that may follow make sure of that. -/

namespace CardMachine.Format

open Text (decimal signedDecimal decimalValue isLineEnd isSpace trim trimRight)
open Grammar

variable {s z : List Char} {ts : List Token}

/-! ### Line ends -/

theorem fails_lineEnd (h : ∀ c ∈ s.head?, isLineEnd c = false) : Fails lineEnd s := by
  have hw : ∀ (c : Char) (w : List Char), isLineEnd c = true → ¬ (c :: w) <+: s := by
    rintro c w hc ⟨t, rfl⟩
    rw [h c rfl] at hc
    cases hc
  exact (fails_word (hw _ _ rfl)).alt ((fails_word (hw _ _ rfl)).alt (fails_word (hw _ _ rfl)))

/-- A line end is read whole: a carriage return with the line feed after it. -/
theorem reads_lineEnd {c : Char} (hc : isLineEnd c = true) (s : List Char) :
    ∃ t, t.length ≤ s.length ∧ Reads lineEnd (c :: s) (fun _ => True) (afterGap t) ∧
      settle false t = settle false (c :: s) := by
  rcases (by simpa [isLineEnd] using hc : c = '\n' ∨ c = '\r') with rfl | rfl
  · exact ⟨s, Nat.le_refl _, (reads_word ['\n'] s).altLeft, (settle_cons_of_skip (.inr hc)).symm⟩
  · have h₁ : Fails (word ['\n'] : Grammar Rule Unit) ('\r' :: s) := fails_word (by simp)
    by_cases hs : ['\r', '\n'] <+: '\r' :: s
    · obtain ⟨t, ht⟩ := hs
      obtain rfl : '\n' :: t = s := by simpa using ht
      refine ⟨t, by simp, .altRight h₁ (reads_word ['\r', '\n'] t).altLeft, ?_⟩
      rw [settle_cons_of_skip (.inr rfl), settle_cons_of_skip (.inr rfl)]
    · refine ⟨s, Nat.le_refl _, .altRight h₁ (.altRight (fails_word hs) (reads_word ['\r'] s)), ?_⟩
      exact (settle_cons_of_skip (.inr hc)).symm

/-- Line ends, with their gaps and comments, are read up to the next line. -/
theorem rounds_lineEnd (s : List Char) : ∃ l : List Unit,
    Rounds lineEnd (fun _ _ => True) (afterGap s) l (settle false s) := by
  cases hs : afterGap s with
  | nil =>
    have he : settle false s = [] := by rw [← settle_afterGap, hs]; rfl
    rw [he]
    exact ⟨[], .stop (fails_lineEnd (by simp))⟩
  | cons c t =>
    rw [← settle_afterGap, hs]
    cases hc : isLineEnd c with
    | false =>
      have hsolid := solid_afterGap s c (by rw [hs]; rfl)
      have he : settle false (c :: t) = c :: t := by
        rw [settle, if_neg (by simp [hsolid.1, hc]), if_neg hsolid.2]
      rw [he]
      exact ⟨[], .stop (fails_lineEnd (by simpa using hc))⟩
    | true =>
      obtain ⟨u, hle, hr, hu⟩ := reads_lineEnd hc t
      have hlt : u.length < s.length := by
        have := length_afterGap_le s
        rw [hs, List.length_cons] at this
        omega
      obtain ⟨l, hl⟩ := rounds_lineEnd u
      exact ⟨() :: l, .round hr (hu ▸ hl)⟩
termination_by s.length

theorem reads_lineEnds (s : List Char) :
    Reads lineEnd.star (afterGap s) (fun _ => True) (settle false s) := by
  obtain ⟨l, hl⟩ := rounds_lineEnd s
  exact (hl.star rfl (afterGap_afterGap s)).imp fun _ _ => trivial

/-- Where a line ends, the next line is read after at least one line end. -/
theorem reads_nextLine (hz : AtLineEnd (afterGap z)) (hne : afterGap z ≠ []) :
    Reads lineEnd.plus (afterGap z) (fun _ => True) (settle false z) := by
  obtain ⟨c, t, hct⟩ := List.exists_cons_of_ne_nil hne
  rw [hct] at hz
  obtain ⟨u, -, hr, hu⟩ := reads_lineEnd (hz c rfl) t
  rw [hct, ← settle_afterGap z, hct, ← hu]
  exact (hr.both (reads_lineEnds u)).map fun _ _ => trivial

/-! ### Words -/

/-- The next word of a line, and the words after it. -/
theorem Spells.next {t : Token} (h : Spells (t :: ts) s z) (ht : t.Crisp) :
    ∃ w s', Spelling t w ∧ afterGap s = w ++ s' ∧ Spells ts s' z := by
  cases h with
  | @cons b w s' _ _ _ hb hw hs =>
    refine ⟨w, s', hw, ?_, hs⟩
    rw [afterGap_blanks_append hb, (hw.crisp ht).afterGap_append]

theorem reads_token {w : List Char} (h : Spells (.text w :: ts) s z) (hw : Crisp w) :
    ∃ s', Reads (word w : Grammar Rule Unit) (afterGap s) (fun _ => True) (afterGap s') ∧
      Spells ts s' z := by
  obtain ⟨_, s', ⟨⟩, he, hs⟩ := h.next hw
  exact ⟨s', he ▸ reads_word w s', hs⟩

/-! ### Symbols -/

theorem reads_inQuotes (c : Symbol) (s : List Char) :
    Reads quotedSymbol (inQuotes c ++ s) (· = c) (afterGap s) := by
  intro n
  refine ⟨c, ⟨n + 3, s⟩, ?_, rfl, rfl⟩
  refine read_map_iff.mpr ⟨((), c, ()), read_seq_iff.mpr ⟨⟨n + 1, c :: '\'' :: s⟩, ?_, ?_⟩, rfl⟩
  · rw [read_word]; rfl
  · exact read_seq_iff.mpr ⟨⟨n + 2, '\'' :: s⟩, rfl, by rw [read_word]; rfl⟩

theorem fails_quotedSymbol {c : Char} (hc : c ≠ '\'') (s : List Char) :
    Fails quotedSymbol (c :: s) := by
  refine (Fails.seq (fails_word ?_)).map
  rintro ⟨t, ht⟩
  exact hc (List.cons.inj ht).1.symm

theorem reads_plain {c : Symbol} (hc : isPlain c = true) (s : List Char) :
    Reads symbol (c :: s) (· = c) (afterGap s) := by
  have hq : c ≠ '\'' := by rintro rfl; cases hc
  exact (Reads.altRight (fails_quotedSymbol hq s) (reads_char hc)).unplaced .symbol

theorem fails_symbol (hq : Fails quotedSymbol s) (hs : ∀ c ∈ s.head?, isPlain c = false) :
    Fails symbol s :=
  Fails.map (Fails.rule Rule.symbol (hq.alt (fails_char hs)))

theorem isPlain_of_needsQuotes_eq_false {c : Symbol} (h : needsQuotes c = false) :
    isPlain c = true := by
  simp only [needsQuotes, Bool.or_eq_false_iff, beq_eq_false_iff_ne] at h
  obtain ⟨⟨⟨⟨hs, -⟩, h₁⟩, h₂⟩, h₃⟩ := h
  simp [isPlain, isBlank_eq_false hs, isLineEnd_eq_false hs, h₁, h₂, h₃]

theorem reads_quoted (c : Symbol) (s : List Char) :
    Reads symbol (inQuotes c ++ s) (· = c) (afterGap s) :=
  Reads.unplaced (g := .alt quotedSymbol (.char isPlain)) .symbol (reads_inQuotes c s).altLeft

theorem reads_symbol {c : Symbol} (h : Spells (.symbol c :: ts) s z) :
    ∃ s', Reads symbol (afterGap s) (· = c) (afterGap s') ∧ Spells ts s' z := by
  obtain ⟨w, s', hw, he, hs⟩ := h.next trivial
  refine ⟨s', he ▸ ?_, hs⟩
  cases hw with
  | quoted => exact reads_quoted c s'
  | written =>
    unfold writeSymbol
    split
    · exact reads_quoted c s'
    · rename_i hn
      exact reads_plain (isPlain_of_needsQuotes_eq_false (by simpa using hn)) s'

/-! ### What follows a word -/

/-- A line end is none of the characters that matter inside a line. -/
theorem AtLineEnd.eq_false {p : Char → Bool} (h : AtLineEnd s) (hn : p '\n' = false)
    (hr : p '\r' = false) : ∀ c ∈ s.head?, p c = false := by
  intro c hc
  rcases (by simpa [isLineEnd] using h c hc : c = '\n' ∨ c = '\r') with rfl | rfl
  · exact hn
  · exact hr

theorem head?_afterGap_of_spells {w : List Char} {c : Char} (h : Spells (.text (c :: w) :: ts) s z)
    (hw : Crisp (c :: w)) : (afterGap s).head? = some c := by
  obtain ⟨_, s', ⟨⟩, he, -⟩ := h.next hw
  rw [he]
  rfl

/-- A text starts with a character that no gap starts with only if it does so after a gap. -/
theorem eq_false_of_head?_afterGap {p : Char → Bool} (hp : ∀ c, p c = true → isSpace c = false ∧
    c ≠ '#') (h : ∀ c ∈ (afterGap s).head?, p c = false) : ∀ c ∈ s.head?, p c = false := by
  intro c hc
  cases hpc : p c with
  | false => rfl
  | true =>
    have hsolid : Solid s := by
      intro d hd
      obtain rfl : c = d := by rw [Option.mem_def.mp hc] at hd; simpa using hd
      exact ⟨isBlank_eq_false (hp c hpc).1, (hp c hpc).2⟩
    rw [← hpc]
    exact h c (by rwa [afterGap_of_solid hsolid])

/-- A word of characters that satisfy `p`, which none of them follows. -/
theorem reads_longest {α : Type} {g : Grammar Rule α} {P : α → Prop} {p : Char → Bool}
    {w : List Char} (hp : ∀ c, p c = true → isSpace c = false ∧ c ≠ '#') (hw : Crisp w)
    (hg : ∀ s, (∀ c ∈ s.head?, p c = false) → Reads g (w ++ s) P (afterGap s))
    (h : Spells (.text w :: ts) s z)
    (hts : ∀ s', Spells ts s' z → ∀ c ∈ (afterGap s').head?, p c = false) :
    ∃ s', Reads g (afterGap s) P (afterGap s') ∧ Spells ts s' z := by
  obtain ⟨_, s', ⟨⟩, he, hs⟩ := h.next hw
  exact ⟨s', he ▸ hg s' (eq_false_of_head?_afterGap hp (hts s' hs)), hs⟩

/-- No such character follows where another word does. -/
theorem eq_false_of_spells {p : Char → Bool} {c : Char} {w : List Char} (hc : p c = false)
    (hw : Crisp (c :: w)) : ∀ s, Spells (.text (c :: w) :: ts) s z →
      ∀ d ∈ (afterGap s).head?, p d = false := by
  intro s h d hd
  rw [head?_afterGap_of_spells h hw] at hd
  cases hd
  exact hc

/-! ### Numbers -/

/-- No visible character of ASCII is white space. -/
theorem isSpace_eq_false_of_visible {c : Char} (h : 33 ≤ c.toNat ∧ c.toNat ≤ 126) :
    isSpace c = false := by
  rw [← Bool.not_eq_true]
  intro hs
  simp only [isSpace, Text.spaces, Text.CharClass.contains, List.any_cons, List.any_nil,
    Bool.or_eq_true, Bool.and_eq_true, decide_eq_true_eq, Bool.false_eq_true, or_false] at hs
  rcases hs with hs | hs | hs | hs | hs | hs | hs | hs | hs | hs <;> omega

theorem isSpace_eq_false_of_isDigit {c : Char} (h : c.isDigit = true) :
    isSpace c = false ∧ c ≠ '#' := by
  have hr : 48 ≤ c.toNat ∧ c.toNat ≤ 57 := by
    simpa [Char.isDigit, UInt32.le_iff_toNat_le] using h
  exact ⟨isSpace_eq_false_of_visible (by omega), by rintro rfl; cases h⟩

theorem isDigit_of_mem_decimal {n : Nat} {c : Char} (h : c ∈ decimal n) : c.isDigit = true :=
  Nat.isDigit_of_mem_toDigits (by decide) (by decide) h

theorem crisp_decimal (n : Nat) : Crisp (decimal n) :=
  crisp_of_forall Nat.toDigits_ne_nil fun _ hc =>
    isSpace_eq_false_of_isDigit (isDigit_of_mem_decimal hc)

theorem crisp_signedDecimal (i : Int) : Crisp (signedDecimal i) where
  head := by
    unfold signedDecimal
    split
    · exact ⟨_, _, rfl, by decide, by decide⟩
    · exact ⟨_, _, rfl, by decide, by decide⟩
  last := by
    obtain ⟨t, c, h, hc⟩ := (crisp_decimal i.natAbs).last
    exact ⟨_ :: t, c, by rw [signedDecimal, h]; rfl, hc⟩

theorem reads_number (n : Nat) (hs : ∀ c ∈ s.head?, c.isDigit = false) :
    Reads number (decimal n ++ s) (· = n) (afterGap s) := by
  refine (reads_run Nat.toDigits_ne_nil (fun c hc => isDigit_of_mem_decimal hc) hs).map ?_
  rintro w rfl
  exact Nat.ofDigitChars_ten_toDigits

theorem reads_signedNumber (i : Int) (hs : ∀ c ∈ s.head?, c.isDigit = false) :
    Reads signedNumber (signedDecimal i ++ s) (· = i) (afterGap s) := by
  intro n
  obtain ⟨m, c, hr, hm, hc⟩ := reads_number i.natAbs hs (n + 1)
  obtain ⟨x, hx, hsign⟩ : ∃ x, signedDecimal i = x :: decimal i.natAbs ∧
      ((x = '-' ∧ i < 0) ∨ (x = '+' ∧ 0 ≤ i)) := by
    unfold signedDecimal
    split
    · exact ⟨_, rfl, .inl ⟨rfl, by assumption⟩⟩
    · exact ⟨_, rfl, .inr ⟨rfl, by omega⟩⟩
  have hread : sign.read ⟨n, x :: (decimal i.natAbs ++ s)⟩ =
      some (x, ⟨n + 1, decimal i.natAbs ++ s⟩) := by
    rw [sign, read_char]
    rcases hsign with ⟨rfl, -⟩ | ⟨rfl, -⟩ <;> rfl
  refine ⟨_, c, read_map_iff.mpr ⟨(some x, m), ?_, rfl⟩, ?_, hc⟩
  · rw [hx]
    exact read_seq_iff.mpr ⟨_, read_opt_iff.mpr (.inr ⟨x, rfl, hread⟩), hr⟩
  · subst hm
    dsimp only
    rcases hsign with ⟨rfl, hi⟩ | ⟨rfl, hi⟩
    · rw [if_pos rfl]; omega
    · rw [if_neg (by decide)]; omega

/-- A number as a word of a line, which no digit follows. -/
theorem reads_numeral {α : Type} {g : Grammar Rule α} {P : α → Prop} {w : List Char}
    (hw : Crisp w)
    (hg : ∀ s, (∀ c ∈ s.head?, c.isDigit = false) → Reads g (w ++ s) P (afterGap s))
    (h : Spells (.text w :: ts) s z)
    (hts : ∀ s', Spells ts s' z → ∀ c ∈ (afterGap s').head?, c.isDigit = false) :
    ∃ s', Reads g (afterGap s) P (afterGap s') ∧ Spells ts s' z :=
  reads_longest (fun _ => isSpace_eq_false_of_isDigit) hw hg h hts

/-- No digit follows where the line ends. -/
theorem isDigit_eq_false_of_atLineEnd (hz : AtLineEnd (afterGap z)) : ∀ s, Spells [] s z →
    ∀ d ∈ (afterGap s).head?, d.isDigit = false := by
  rintro _ ⟨⟩
  exact hz.eq_false rfl rfl

/-! ### Lists of symbols -/

theorem crisp_comma : Crisp [','] := crisp_singleton (by decide) (by decide)

theorem crisp_colon : Crisp [':'] := crisp_singleton (by decide) (by decide)

theorem crisp_arrow : Crisp ['-', '>'] :=
  (crisp_singleton (by decide) (by decide)).append [] (crisp_singleton (by decide) (by decide))

theorem rounds_symbols (hz : AtLineEnd (afterGap z)) : ∀ {l : List Symbol} {s : List Char},
    Spells (l.flatMap fun c => [.text [','], .symbol c]) s z →
      Rounds (right (word [',']) symbol) Eq (afterGap s) l (afterGap z)
  | [], s, h => by
    cases h
    refine .stop (Fails.both (fails_word ?_)).map
    rintro ⟨t, ht⟩
    have := hz ',' (by rw [← ht]; rfl)
    cases this
  | c :: l, s, h => by
    obtain ⟨s₁, h₁, h⟩ := reads_token h crisp_comma
    obtain ⟨s₂, h₂, h⟩ := reads_symbol h
    exact .round (h₁.right h₂) (rounds_symbols hz h)

/-- A symbol and the symbols after it. -/
theorem reads_symbolList {c : Symbol} {l : List Symbol} {t u : List Char}
    (h : Reads symbol s (· = c) u) (hl : Rounds (right (word [',']) symbol) Eq u l t) :
    Reads symbols s (· = c :: l) t := by
  refine ((h.both (hl.star rfl h.afterGap_eq)).map (Q := (· = c :: l)) ?_).unplaced .symbols
  rintro ⟨a, as⟩ ⟨rfl, has⟩
  rw [List.forall₂_eq_eq_eq] at has
  exact congrArg _ has

theorem reads_symbols {l : List Symbol} (hl : l ≠ []) (h : Spells (symbolWords l) s z)
    (hz : AtLineEnd (afterGap z)) : Reads symbols (afterGap s) (· = l) (afterGap z) := by
  obtain ⟨c, l, rfl⟩ := List.exists_cons_of_ne_nil hl
  obtain ⟨s₁, h₁, h⟩ := reads_symbol h
  exact reads_symbolList h₁ (rounds_symbols hz h)

/-! ### The rest of a line -/

/-- Blanks after a text do not count once it is trimmed. -/
theorem trim_append_blanks {w b : List Char} (hw : Crisp w) (hb : Blanks b) :
    trim (w ++ b) = w := by
  have hd : (w ++ b).dropWhile isSpace = w ++ b := by
    obtain ⟨c, t, rfl, hc, -⟩ := hw.head
    exact List.dropWhile_cons_of_neg (by simp [hc])
  have hn : trimRight b = [] := by
    rw [trimRight, List.reverse_eq_nil_iff, List.dropWhile_eq_nil_iff]
    exact fun c hc => isSpace_of_isBlank (hb c (List.mem_reverse.mp hc))
  obtain ⟨t, c, rfl, hc⟩ := hw.last
  rw [trim, hd, List.append_assoc, List.singleton_append, trimRight_append_cons hc, hn]

/-- The blanks after the words belong to the text, up to the comment or the line end. -/
theorem reads_text {w : List Char} (hw : Crisp w) (hl : ∀ c ∈ w, isLineEnd c = false ∧ c ≠ '#')
    (h : Spells [.text w] s z) (hz : AtLineEnd (afterGap z)) :
    Reads text (afterGap s) (fun v => trim v = w) (afterGap z) := by
  obtain ⟨_, _, ⟨⟩, he, ⟨⟩⟩ := h.next hw
  have hb := blanks_takeWhile z
  have hin : ∀ c ∈ w ++ z.takeWhile isBlank, (!(isLineEnd c || c == '#')) = true := by
    intro c hc
    rcases List.mem_append.mp hc with hc | hc
    · simp [hl c hc]
    · rcases (by simpa [isBlank] using hb c hc : c = ' ' ∨ c = '\t') with rfl | rfl <;> rfl
  have hout : ∀ c ∈ (z.dropWhile isBlank).head?, (!(isLineEnd c || c == '#')) = false := by
    intro c hc
    rcases hz.head?_dropWhile c hc with rfl | hc
    · rfl
    · simp [hc]
  have hne : w ++ z.takeWhile isBlank ≠ [] := by
    obtain ⟨c, t, rfl, -⟩ := hw.head
    simp
  have hr := (reads_run hne hin hout).unplaced Rule.text
  rw [List.append_assoc, List.takeWhile_append_dropWhile, afterGap_dropWhile] at hr
  rw [he]
  exact hr.imp fun v hv => hv ▸ trim_append_blanks hw hb

/-! ### Actions -/

/-- The line says what the entry of a card does. -/
structure ActionLine.Says (line : ActionLine) (e : Symbol × Action) : Prop where
  read : line.read = e.1
  write : line.write = e.2.write
  step : line.step.value = e.2.step.toInt
  next : line.next.value = e.2.next.toNat

theorem reads_action {e : Symbol × Action} (h : Spells (actionWords e) s z)
    (hz : AtLineEnd (afterGap z)) :
    Reads action (afterGap s) (fun x => x.value.Says e) (afterGap z) := by
  obtain ⟨s₁, h₁, h⟩ := reads_symbol h
  obtain ⟨s₂, h₂, h⟩ := reads_token h crisp_arrow
  obtain ⟨s₃, h₃, h⟩ := reads_symbol h
  obtain ⟨s₄, h₄, h⟩ := reads_token h crisp_comma
  obtain ⟨s₅, h₅, h⟩ := reads_numeral (crisp_signedDecimal _) (fun _ => reads_signedNumber _) h
    (eq_false_of_spells rfl crisp_comma)
  obtain ⟨s₆, h₆, h⟩ := reads_token h crisp_comma
  obtain ⟨s₇, h₇, h⟩ := reads_numeral (crisp_decimal _) (fun _ => reads_number _) h
    (isDigit_eq_false_of_atLineEnd hz)
  cases h
  have hparts := (h₁.left h₂).both ((h₃.left h₄).both
    (((h₅.rule .offset).left h₆).both (h₇.rule .stateId)))
  refine (hparts.map (Q := (ActionLine.Says · e)) ?_).rule .action
  rintro ⟨read, write, step, next⟩ ⟨hread, hwrite, hstep, hnext⟩
  exact ⟨hread, hwrite, hstep, hnext⟩

/-- A line that starts with one word of letters or digits and a colon is no action: after its first
character, read as a symbol, comes no arrow. -/
theorem fails_action {c : Char} {w : List Char}
    (h : Spells (.text (c :: w) :: .text [':'] :: ts) s z) (hw : Crisp (c :: w)) (hc : c ≠ '\'')
    (hl : ∀ d ∈ w, isSpace d = false ∧ d ≠ '#' ∧ d ≠ '-') : Fails action (afterGap s) := by
  obtain ⟨_, s', ⟨⟩, he, hs⟩ := h.next hw
  rw [he, List.cons_append]
  refine Fails.rule Rule.action (Fails.map (Fails.both (Fails.map ?_)))
  cases hplain : isPlain c with
  | false =>
    exact Fails.both (fails_symbol (fails_quotedSymbol hc _) (by simpa using hplain))
  | true =>
    refine (reads_plain hplain _).failsBoth (fails_word ?_)
    rintro ⟨t, ht⟩
    cases w with
    | nil =>
      have := head?_afterGap_of_spells hs crisp_colon
      rw [List.nil_append] at ht
      rw [← ht] at this
      cases this
    | cons d w =>
      obtain ⟨hd, hd', hne⟩ := hl d List.mem_cons_self
      rw [afterGap_of_solid (by rintro x ⟨⟩; exact ⟨isBlank_eq_false hd, hd'⟩)] at ht
      exact hne (List.cons.inj ht).1.symm

theorem fails_action_nil : Fails action [] := by
  have hq : Fails quotedSymbol [] := (Fails.seq (fails_word (by simp))).map
  have hs := fails_symbol hq (by simp)
  exact Fails.rule Rule.action (Fails.map (Fails.both (Fails.map (Fails.both hs))))

end CardMachine.Format
