import CardMachine.Proofs.Format.Cells

/-! # A tape on the command line and in a file

A bare tape is trimmed of all white space, while on a line of a program only blanks and a comment
are passed over before and after the tape. Other white space is a symbol like any other. So the two
texts mean the same if nothing but blanks is trimmed away, or if what is trimmed away at the end
belongs to a comment (`TrimsBlanks`), and otherwise at most one of them holds a tape. -/

namespace CardMachine

namespace Format

open Text (isLineEnd isSpace trim trimRight)
open Grammar

variable {s t e : List Char} {c : Symbol} {l : List Symbol}

/-- Whether a line has a comment, which starts outside of quotes. -/
def hasComment : List Char → Bool
  | [] => false
  | '\'' :: _ :: '\'' :: s => hasComment s
  | c :: s => c == '#' || hasComment s

/-- What is trimmed away from the line is blanks, or at the end of a comment. -/
def TrimsBlanks (s : List Char) : Prop :=
  ∃ a e, s = a ++ (trim s ++ e) ∧ Blanks a ∧
    (Blanks e ∨ hasComment s = true ∧ ∀ c ∈ e, isSpace c = true)

/-! ### Blanks and other white space -/

theorem not_mark_of_isSpace (hc : isSpace c = true) : c ≠ '#' ∧ c ≠ ',' ∧ c ≠ '\'' := by
  refine ⟨?_, ?_, ?_⟩ <;> (rintro rfl; exact absurd hc (by decide))

theorem hasComment_cons (hq : c ≠ '\'') (hc : c ≠ '#') : hasComment (c :: s) = hasComment s := by
  rw [hasComment, beq_false_of_ne hc, Bool.false_or]
  exact fun _ _ h => absurd h hq

theorem hasComment_space_append : ∀ {a : List Char}, (∀ c ∈ a, isSpace c = true) →
    hasComment (a ++ s) = hasComment s
  | [], _ => rfl
  | c :: a, h => by
    obtain ⟨hc, ha⟩ := List.forall_mem_cons.mp h
    obtain ⟨hcomment, -, hq⟩ := not_mark_of_isSpace hc
    rw [List.cons_append, hasComment_cons hq hcomment, hasComment_space_append ha]

theorem cells?_blanks_append {b : Bool} : ∀ {a : List Char}, Blanks a →
    cells? b (a ++ s) = cells? b s
  | [], _ => rfl
  | c :: a, h => by
    obtain ⟨hc, ha⟩ := List.forall_mem_cons.mp h
    rw [List.cons_append, cells?_blank hc, cells?_blanks_append ha]

/-- After a symbol there is no white space but blanks. -/
theorem blanks_of_cells : ∀ {a : List Char}, (∀ c ∈ a, isSpace c = true) →
    cells? false (a ++ s) = some l → Blanks a ∧ cells? false s = some l
  | [], _, h => ⟨by simp [Blanks], h⟩
  | c :: a, ha, h => by
    obtain ⟨hc, ha⟩ := List.forall_mem_cons.mp ha
    rw [List.cons_append] at h
    cases hb : isBlank c with
    | true =>
      rw [cells?_blank hb] at h
      obtain ⟨hblanks, hs⟩ := blanks_of_cells ha h
      exact ⟨List.forall_mem_cons.mpr ⟨hb, hblanks⟩, hs⟩
    | false =>
      obtain ⟨hcomment, hcomma, -⟩ := not_mark_of_isSpace hc
      rw [cells?_false_cons hb hcomment hcomma] at h
      cases h

/-! ### The end of a line -/

/-- The search for cells comes to the end of the line, where it awaits a symbol or not, and what it
finds from there is added to what it found before. -/
def Reaches (awaited : Bool) (s e : List Char) : Prop :=
  ∃ b f, cells? awaited (s ++ e) = (cells? b e).map f ∧ cells? awaited s = (cells? b []).map f

theorem Reaches.cons {b b' : Bool} {s' : List Char} {f : List Symbol → List Symbol}
    (h : Reaches b s e) (h₁ : cells? b' (s' ++ e) = (cells? b (s ++ e)).map f)
    (h₂ : cells? b' s' = (cells? b s).map f) : Reaches b' s' e := by
  obtain ⟨b'', g, hg₁, hg₂⟩ := h
  refine ⟨b'', f ∘ g, ?_, ?_⟩
  · rw [h₁, hg₁, Option.map_map]
  · rw [h₂, hg₂, Option.map_map]

/-- How white space after a line counts. -/
def Ends (b : Bool) (s e : List Char) : Prop :=
  Reaches b s e ∧ hasComment (s ++ e) = false ∨
    cells? b (s ++ e) = cells? b s ∧ (cells? b s = none ∨ hasComment (s ++ e) = true)

theorem Ends.cons {b b' : Bool} {s' : List Char} {f : List Symbol → List Symbol}
    (h : Ends b s e) (h₁ : cells? b' (s' ++ e) = (cells? b (s ++ e)).map f)
    (h₂ : cells? b' s' = (cells? b s).map f) (hc : hasComment (s' ++ e) = hasComment (s ++ e)) :
    Ends b' s' e := by
  rcases h with ⟨h, hn⟩ | ⟨h, hn⟩
  · exact .inl ⟨h.cons h₁ h₂, hc.trans hn⟩
  · refine .inr ⟨by rw [h₁, h₂, h], hn.imp (fun hn => ?_) hc.trans⟩
    rw [h₂, hn]
    rfl

theorem Ends.of_none {b : Bool} (h₁ : cells? b (s ++ e) = none) (h₂ : cells? b s = none) :
    Ends b s e := .inr ⟨h₁.trans h₂.symm, .inl h₂⟩

/-- **White space after a line** counts only if the search comes there, which it does not if there
is a comment before. -/
theorem cells?_append (he : ∀ c ∈ e, isSpace c = true) : ∀ (b : Bool) (s : List Char),
    (∀ c ∈ s, isLineEnd c = false) → Ends b s e
  | b, [], _ => by
    have hn : hasComment ([] ++ e) = false := by
      have := hasComment_space_append (s := []) he
      rwa [List.append_nil] at this
    exact .inl ⟨⟨b, id, by simp, by simp⟩, hn⟩
  | b, c :: s, h => by
    obtain ⟨hc, hs⟩ := List.forall_mem_cons.mp h
    rcases blank_or_mark_or_plain hc with hb | rfl | rfl | rfl | hp
    · obtain ⟨hcomment, -, hq⟩ := not_mark_of_isSpace (isSpace_of_isBlank hb)
      refine (cells?_append he b s hs).cons (f := id) ?_ ?_ (hasComment_cons hq hcomment)
      · rw [List.cons_append, cells?_blank hb, Option.map_id_fun, id]
      · rw [cells?_blank hb, Option.map_id_fun, id]
    · exact .inr ⟨by rw [List.cons_append, cells?_comment, cells?_comment], .inr rfl⟩
    · cases b with
      | true => exact .of_none rfl rfl
      | false =>
        refine (cells?_append he true s hs).cons (f := id) ?_ ?_
          (hasComment_cons (by decide) (by decide))
        · rw [List.cons_append, cells?_comma, Option.map_id_fun]
          rfl
        · rw [cells?_comma, Option.map_id_fun]
          rfl
    · cases b with
      | false => exact .of_none rfl rfl
      | true =>
        by_cases hq : ∃ c t, s = c :: '\'' :: t
        · obtain ⟨c, t, rfl⟩ := hq
          exact (cells?_append he false t fun d hd => hs d (by simp [hd])).cons rfl rfl rfl
        · simp only [not_exists] at hq
          have hmark : ∀ d ∈ e, d ≠ '\'' := fun d hd => (not_mark_of_isSpace (he d hd)).2.2
          refine .of_none (cells?_quote (ne_quoted_append ?_ ?_ hq)) (cells?_quote hq)
          · exact fun d hd => hmark d (List.mem_of_mem_head? hd)
          · rintro c t rfl
            exact hmark '\'' (by simp) rfl
    · obtain ⟨hb, hcomment, hcomma, hq⟩ := of_isPlain hp
      cases b with
      | true =>
        exact (cells?_append he false s hs).cons (cells?_plain hp) (cells?_plain hp)
          (hasComment_cons hq hcomment)
      | false =>
        exact .of_none (cells?_false_cons hb hcomment hcomma) (cells?_false_cons hb hcomment hcomma)
termination_by _ s => s.length

/-- White space after a line does not count if it is blanks or belongs to a comment. -/
theorem cells?_append_eq (hs : ∀ c ∈ s, isLineEnd c = false)
    (h : Blanks e ∨ hasComment (s ++ e) = true ∧ ∀ c ∈ e, isSpace c = true) :
    cells? true (s ++ e) = cells? true s := by
  have he : ∀ c ∈ e, isSpace c = true := by
    rcases h with h | h
    · exact fun c hc => isSpace_of_isBlank (h c hc)
    · exact h.2
  rcases cells?_append he true s hs with ⟨⟨b, f, h₁, h₂⟩, hn⟩ | ⟨heq, -⟩
  · rcases h with hblanks | ⟨hcomment, -⟩
    · have hend := cells?_blanks_append (b := b) (s := []) hblanks
      rw [List.append_nil] at hend
      rw [h₁, h₂, hend]
    · rw [hn] at hcomment
      cases hcomment
  · exact heq

/-- With other white space after it, and no comment, a line holds no tape or needs the white space
to hold one. -/
theorem cells?_append_ne (hs : ∀ c ∈ s, isLineEnd c = false) (he : ∀ c ∈ e, isSpace c = true)
    (hne : ¬ Blanks e) (hc : hasComment (s ++ e) = false) :
    cells? true (s ++ e) = none ∨ cells? true s = none := by
  rcases cells?_append he true s hs with ⟨⟨b, f, h₁, h₂⟩, -⟩ | ⟨heq, hn | hcomment⟩
  · cases b with
    | true => exact .inr h₂
    | false =>
      cases hcells : cells? false e with
      | none => exact .inl (by rw [h₁, hcells]; rfl)
      | some l =>
        rw [← List.append_nil e] at hcells
        exact absurd (blanks_of_cells he hcells).1 hne
  · exact .inr hn
  · rw [hc] at hcomment
    cases hcomment

/-! ### The beginning of a line -/

/-- With other white space before it than blanks, a line holds no tape or needs the white space to
hold one. -/
theorem cells?_space_append_ne (ht : ∀ c ∈ s.head?, isSpace c = false) : ∀ {a : List Char},
    (∀ c ∈ a, isLineEnd c = false) → (∀ c ∈ a, isSpace c = true) → ¬ Blanks a →
      cells? true (a ++ (s ++ e)) = none ∨ cells? true s = none
  | [], _, _, hne => absurd (by simp [Blanks]) hne
  | c :: a, hl, ha, hne => by
    obtain ⟨hc, hl⟩ := List.forall_mem_cons.mp hl
    obtain ⟨hspace, ha⟩ := List.forall_mem_cons.mp ha
    rw [List.cons_append]
    cases hb : isBlank c with
    | true =>
      rw [cells?_blank hb]
      exact cells?_space_append_ne ht hl ha fun h => hne (List.forall_mem_cons.mpr ⟨hb, h⟩)
    | false =>
      obtain ⟨hcomment, hcomma, hq⟩ := not_mark_of_isSpace hspace
      have hp : isPlain c = true := by simp [isPlain, hb, hcomma, hq, hcomment, hc]
      rw [cells?_plain hp]
      cases hcells : cells? false (a ++ (s ++ e)) with
      | none => exact .inl rfl
      | some l =>
        -- the white space is read as a symbol, so a comma or a comment comes next
        have hs := (blanks_of_cells ha hcells).2
        refine .inr ?_
        cases s with
        | nil => rfl
        | cons d s =>
          by_cases hd : d = '#' ∨ d = ','
          · rcases hd with rfl | rfl <;> rfl
          · obtain ⟨hd, hd'⟩ := not_or.mp hd
            rw [List.cons_append, cells?_false_cons (isBlank_eq_false (ht d rfl)) hd hd'] at hs
            cases hs

/-! ### Trimming -/

/-- What is trimmed away from a text at both ends. -/
theorem exists_trim (s : List Char) : ∃ a e, s = a ++ (trim s ++ e) ∧
    (∀ c ∈ a, isSpace c = true) ∧ (∀ c ∈ e, isSpace c = true) := by
  refine ⟨s.takeWhile isSpace, ((s.dropWhile isSpace).reverse.takeWhile isSpace).reverse, ?_,
    fun c hc => List.mem_takeWhile_imp hc,
    fun c hc => List.mem_takeWhile_imp (List.mem_reverse.mp hc)⟩
  rw [trim, trimRight_append_takeWhile, List.takeWhile_append_dropWhile]

theorem cells?_of_trimsBlanks (hs : ∀ c ∈ s, isLineEnd c = false) (h : TrimsBlanks s) :
    cells? true s = cells? true (trim s) := by
  obtain ⟨a, e, hse, ha, he⟩ := h
  have hspace : ∀ c ∈ a, isSpace c = true := fun c hc => isSpace_of_isBlank (ha c hc)
  have hcomment : hasComment s = hasComment (trim s ++ e) := by
    conv_lhs => rw [hse]
    exact hasComment_space_append hspace
  have hcells : cells? true s = cells? true (trim s ++ e) := by
    conv_lhs => rw [hse]
    exact cells?_blanks_append ha
  rw [hcells, cells?_append_eq (fun c hc => hs c (mem_of_mem_trim hc))]
  rwa [← hcomment]

/-- Where more is trimmed away than blanks, the line and its trimmed form do not both hold a tape. -/
theorem cells?_of_not_trimsBlanks (hs : ∀ c ∈ s, isLineEnd c = false) (h : ¬ TrimsBlanks s) :
    cells? true s = none ∨ cells? true (trim s) = none := by
  obtain ⟨a, e, hse, ha, he⟩ := exists_trim s
  by_cases hblanks : Blanks a
  · have hcomment : hasComment s = hasComment (trim s ++ e) := by
      conv_lhs => rw [hse]
      exact hasComment_space_append ha
    have hcells : cells? true s = cells? true (trim s ++ e) := by
      conv_lhs => rw [hse]
      exact cells?_blanks_append hblanks
    rw [hcells]
    refine cells?_append_ne (fun c hc => hs c (mem_of_mem_trim hc)) he (fun hb => ?_) ?_
    · exact h ⟨a, e, hse, hblanks, .inl hb⟩
    · rw [← hcomment, ← Bool.not_eq_true]
      exact fun hc => h ⟨a, e, hse, hblanks, .inr ⟨hc, he⟩⟩
  · have hl : ∀ c ∈ a, isLineEnd c = false := fun c hc => hs c (by rw [hse]; simp [hc])
    have hboth := cells?_space_append_ne (s := trim s) (e := e) head?_trim hl ha hblanks
    rwa [← hse] at hboth

end Format

open Format
open Grammar (isBlank)

/-- The text is that of a program with these cells as its own tape. -/
def HoldsTape (text : String) (cells : List Symbol) : Prop :=
  ∃ p i, Program.ofText text = .ok p ∧ p.input = some i ∧ i.cells = cells

/-- **A tape in a file** is what is found on its line. -/
theorem holdsTape_tapeFile_iff {s : String} (hs : ∀ c ∈ s.toList, Text.isLineEnd c = false)
    (hsize : (tapeFile s).utf8ByteSize ≤ sizeLimit) {cells : List Symbol} :
    HoldsTape (tapeFile s) cells ↔ cells? true s.toList = some cells := by
  cases h : cells? true s.toList with
  | none =>
    refine ⟨fun ⟨p, _, hp, _⟩ => absurd hp (ofText_tapeFile_ne hs h p), fun h => nomatch h⟩
  | some l =>
    have hp := ofText_tapeFile_of_cells hs hsize h
    constructor
    · rintro ⟨p, i, hp', hi, rfl⟩
      rw [hp] at hp'
      cases hp'
      cases hi
      rfl
    · rintro ⟨⟩
      exact ⟨_, _, hp, rfl, rfl⟩

/-- **A tape means the same on the command line and in a file** if nothing but blanks and ends of
comments is trimmed away, and otherwise only if it is no tape in either place. -/
theorem tapeOfText_iff_holdsTape (s : String) (hs : ∀ c ∈ s.toList, Text.isLineEnd c = false)
    (hsize : (tapeFile s).utf8ByteSize ≤ sizeLimit) :
    (∀ cells, tapeOfText s = .ok cells ↔ HoldsTape (tapeFile s) cells) ↔
      TrimsBlanks s.toList ∨
        ∀ cells, tapeOfText s ≠ .ok cells ∧ ¬ HoldsTape (tapeFile s) cells := by
  simp only [ne_eq, tapeOfText_eq_ok_iff hs, holdsTape_tapeFile_iff hs hsize]
  constructor
  · intro h
    by_cases ht : TrimsBlanks s.toList
    · exact .inl ht
    · refine .inr fun cells => ?_
      have hiff := h cells
      rcases cells?_of_not_trimsBlanks hs ht with hn | hn
      · rw [hn] at hiff ⊢
        exact ⟨fun hc => absurd (hiff.mp hc) (by simp), by simp⟩
      · rw [hn] at hiff ⊢
        exact ⟨by simp, fun hc => absurd (hiff.mpr hc) (by simp)⟩
  · rintro (h | h) cells
    · rw [cells?_of_trimsBlanks hs h]
    · exact ⟨fun hc => absurd hc (h cells).1, fun hc => absurd hc (h cells).2⟩

theorem tapeOfText_iff_holdsTape_noted :
    (∀ c ∈ "\t'#',a # b\u00a0".toList, Text.isLineEnd c = false) ∧
      (tapeFile "\t'#',a # b\u00a0").utf8ByteSize ≤ sizeLimit ∧
      tapeOfText "\t'#',a # b\u00a0" = .ok ['#', 'a'] ∧
      ∀ cells, tapeOfText "\t'#',a # b\u00a0" = .ok cells ↔
        HoldsTape (tapeFile "\t'#',a # b\u00a0") cells := by
  have hline : ∀ c ∈ "\t'#',a # b\u00a0".toList, Text.isLineEnd c = false := by
    simp [Text.isLineEnd]
  have htrims : TrimsBlanks "\t'#',a # b\u00a0".toList :=
    ⟨['\t'], ['\u00a0'], by decide, by simp [Blanks, isBlank],
      .inr ⟨by decide, List.forall_mem_singleton.mpr (by decide)⟩⟩
  exact ⟨hline, by decide, rfl,
    (tapeOfText_iff_holdsTape _ hline (by decide)).mpr (.inl htrims)⟩

/-- A no-break space is a symbol on a line of a program, and trimmed away on the command line. -/
theorem not_tapeOfText_iff_holdsTape :
    (∀ c ∈ "\u00a0".toList, Text.isLineEnd c = false) ∧
      (tapeFile "\u00a0").utf8ByteSize ≤ sizeLimit ∧
      ¬ ∀ cells, tapeOfText "\u00a0" = .ok cells ↔ HoldsTape (tapeFile "\u00a0") cells := by
  refine ⟨by simp [Text.isLineEnd], by decide, fun h => ?_⟩
  have hfile : HoldsTape (tapeFile "\u00a0") ['\u00a0'] :=
    ⟨tapeProgram ['\u00a0'], _, rfl, rfl, rfl⟩
  have hline := (h ['\u00a0']).mpr hfile
  cases hline

end CardMachine
