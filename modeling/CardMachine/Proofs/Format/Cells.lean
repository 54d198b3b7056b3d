import CardMachine.Proofs.Format.Resolve
import CardMachine.Proofs.Format.Sections

/-! # Tapes on a line

The cells of a tape stand on one line, in a text of its own or in a program. Either way they are
what `cells?` finds on the line: symbols with commas between them, then blanks and a comment at
most. -/

namespace CardMachine

namespace Format

open Text (isLineEnd isSpace trim trimRight)
open Grammar

variable {s z : List Char} {c : Symbol} {l : List Symbol}

/-! ### The cells of a line -/

/-- The cells of a line. If a symbol is awaited there must be one, else a comma, or nothing at all
up to the end of the line. -/
def cells? : (awaited : Bool) → List Char → Option (List Symbol)
  | true, [] => none
  | false, [] => some []
  | true, '\'' :: c :: '\'' :: s => (cells? false s).map (c :: ·)
  | awaited, c :: s =>
    if isBlank c then cells? awaited s
    else if c = '#' then if awaited then none else some []
    else if awaited then if isPlain c then (cells? false s).map (c :: ·) else none
    else if c = ',' then cells? true s
    else none

/-- A character inside a line is a blank, one of three marks, or a symbol by itself. -/
theorem blank_or_mark_or_plain (hc : isLineEnd c = false) :
    isBlank c = true ∨ c = '#' ∨ c = ',' ∨ c = '\'' ∨ isPlain c = true := by
  by_cases hp : isPlain c = true
  · exact .inr (.inr (.inr (.inr hp)))
  · simp only [isPlain, hc, Bool.or_false, Bool.not_eq_true', Bool.not_eq_false, Bool.or_eq_true,
      beq_iff_eq] at hp
    tauto

theorem of_isPlain (hc : isPlain c = true) :
    isBlank c = false ∧ c ≠ '#' ∧ c ≠ ',' ∧ c ≠ '\'' := by
  simp only [isPlain, Bool.not_eq_true', Bool.or_eq_false_iff, beq_eq_false_iff_ne] at hc
  obtain ⟨⟨⟨⟨hb, hcomma⟩, hq⟩, hcomment⟩, -⟩ := hc
  exact ⟨hb, hcomment, hcomma, hq⟩

theorem cells?_blank {b : Bool} (hc : isBlank c = true) : cells? b (c :: s) = cells? b s := by
  rw [cells?, if_pos hc]
  rintro c' s' - rfl
  cases hc

theorem cells?_comment (b : Bool) (s : List Char) :
    cells? b ('#' :: s) = if b then none else some [] := by
  cases b <;> rfl

theorem cells?_comma (b : Bool) (s : List Char) :
    cells? b (',' :: s) = if b then none else cells? true s := by
  cases b <;> rfl

theorem cells?_plain (hc : isPlain c = true) :
    cells? true (c :: s) = (cells? false s).map (c :: ·) := by
  obtain ⟨hb, hcomment, -, hq⟩ := of_isPlain hc
  rw [cells?, if_neg (by simp [hb]), if_neg hcomment, if_pos rfl, if_pos hc]
  exact fun _ _ _ h => absurd h hq

/-- After a symbol comes a comma or a comment. -/
theorem cells?_false_cons (hb : isBlank c = false) (hcomment : c ≠ '#') (hcomma : c ≠ ',') :
    cells? false (c :: s) = none := by
  rw [cells?, if_neg (by simp [hb]), if_neg hcomment, if_neg (by simp), if_neg hcomma]
  exact fun _ _ h => nomatch h

/-- A quote is no symbol unless a symbol and another quote follow. -/
theorem cells?_quote (h : ∀ c t, s ≠ c :: '\'' :: t) : cells? true ('\'' :: s) = none := by
  rw [cells?]
  · rfl
  · exact fun c t _ _ ht => h c t ht

/-- A comma and the symbol after it. -/
def furtherSymbol : Grammar Rule Symbol := right (.word [',']) symbol

/-- What follows the symbols that were read: the end of the line if they are all of its cells, and
something else if it does not have the form of a tape. -/
def Leaves (z : List Char) (found : Option (List Symbol)) (l : List Symbol) (t : List Char) : Prop :=
  found = some l ∧ t = z ∨ found = none ∧ ¬ AtLineEnd t

theorem Leaves.cons {found : Option (List Symbol)} {t : List Char} (h : Leaves z found l t)
    (c : Symbol) : Leaves z (found.map (c :: ·)) (c :: l) t := by
  rcases h with ⟨rfl, ht⟩ | ⟨rfl, ht⟩
  · exact .inl ⟨rfl, ht⟩
  · exact .inr ⟨rfl, ht⟩

theorem afterGap_of_atLineEnd (hz : AtLineEnd z) : afterGap z = z := by
  cases z with
  | nil => rfl
  | cons c z => exact afterGap_of_solid (solid_of_lineEnd (hz c rfl))

/-- A comment goes up to the end of the line. -/
theorem afterGap_comment (hz : AtLineEnd z) (hs : ∀ c ∈ s, isLineEnd c = false) :
    afterGap ('#' :: (s ++ z)) = z := by
  have hs' : ∀ c ∈ s, (!isLineEnd c) = true := fun c hc => by simp [hs c hc]
  rw [afterGap_eq]
  show (s ++ z).dropWhile (fun c => !isLineEnd c) = z
  rw [List.dropWhile_append_of_pos hs']
  cases z with
  | nil => rfl
  | cons c z => exact List.dropWhile_cons_of_neg (by simp [hz c rfl])

theorem fails_furtherSymbol (h : ∀ d ∈ s.head?, d ≠ ',') : Fails furtherSymbol s := by
  refine Fails.map (Fails.both (fails_word ?_))
  rintro ⟨t, rfl⟩
  exact h ',' rfl rfl

theorem fails_symbol_of_atLineEnd (hz : AtLineEnd z) : Fails symbol z := by
  refine fails_symbol (Fails.seq (fails_word ?_)).map fun d hd => by simp [isPlain, hz d hd]
  rintro ⟨t, rfl⟩
  exact absurd (hz '\'' rfl) (by decide)

theorem fails_furtherSymbol_of_atLineEnd (hz : AtLineEnd z) : Fails furtherSymbol z :=
  fails_furtherSymbol fun d hd => by
    rintro rfl
    exact absurd (hz ',' hd) (by decide)

theorem afterGap_blank (hc : isBlank c = true) : afterGap (c :: s) = afterGap s :=
  afterGap_blanks_append (b := [c]) (by simpa [Blanks] using hc) s

/-- What follows a line: the end of the text, or a line end that is not between quotes. -/
structure EndsLine (z : List Char) : Prop where
  atLineEnd : AtLineEnd z
  unquoted : ∀ c t, z ≠ c :: '\'' :: t

/-- What is not in quotes is not put in quotes by a text that starts with none. -/
theorem ne_quoted_append (hz : ∀ c ∈ z.head?, c ≠ '\'') (hz' : ∀ c t, z ≠ c :: '\'' :: t)
    (h : ∀ c t, s ≠ c :: '\'' :: t) : ∀ c t, s ++ z ≠ c :: '\'' :: t := by
  intro c t he
  cases s with
  | nil => exact hz' c t he
  | cons d s =>
    obtain ⟨rfl, ht⟩ := List.cons.inj he
    cases s with
    | nil =>
      obtain rfl : z = '\'' :: t := ht
      exact hz '\'' rfl rfl
    | cons e s =>
      obtain ⟨rfl, -⟩ := List.cons.inj ht
      exact h d s rfl

theorem fails_symbol_comma (s : List Char) : Fails symbol (',' :: s) :=
  fails_symbol (fails_quotedSymbol (by decide) s) fun d hd => by cases hd; rfl

/-- A quote without a symbol and another quote after it. -/
theorem fails_symbol_quote (h : ∀ c t, s ≠ c :: '\'' :: t) : Fails symbol ('\'' :: s) := by
  refine fails_symbol (Fails.map (fails_iff.mpr fun n x k hr => ?_)) fun d hd => by cases hd; rfl
  obtain ⟨k₁, h₁, h₂⟩ := read_seq_iff.mp hr
  obtain ⟨k₂, h₂, h₃⟩ := read_seq_iff.mp h₂
  cases h₁
  cases s with
  | nil => cases h₂
  | cons c s =>
    cases h₂
    rw [read_word] at h₃
    split at h₃
    · rename_i hq
      obtain ⟨t, ht⟩ := List.isPrefixOf_iff_prefix.mp hq
      exact h _ t (congrArg (_ :: ·) ht.symm)
    · cases h₃

theorem not_atLineEnd_cons (hc : isLineEnd c = false) : ¬ AtLineEnd (c :: s) := by
  intro h
  rw [h c rfl] at hc
  cases hc

/-- A symbol and the cells after it. -/
def ReadsCells (z s : List Char) (found : Option (List Symbol)) : Prop :=
  ∃ c u l t, Reads symbol s (· = c) u ∧ Rounds furtherSymbol Eq u l t ∧ Leaves z found (c :: l) t

mutual

/-- **The symbols after a symbol** are read as the further cells of the line. -/
theorem rounds_cells (hz : EndsLine z) : ∀ {s : List Char}, (∀ c ∈ s, isLineEnd c = false) →
    ∃ l t, Rounds furtherSymbol Eq (afterGap (s ++ z)) l t ∧ Leaves z (cells? false s) l t
  | [], _ => by
    rw [List.nil_append, afterGap_of_atLineEnd hz.atLineEnd]
    exact ⟨[], z, .stop (fails_furtherSymbol_of_atLineEnd hz.atLineEnd), .inl ⟨rfl, rfl⟩⟩
  | c :: s, h => by
    obtain ⟨hc, hs⟩ := List.forall_mem_cons.mp h
    rw [List.cons_append]
    rcases blank_or_mark_or_plain hc with hb | rfl | rfl | hother
    · rw [afterGap_blank hb, cells?_blank hb]
      exact rounds_cells hz hs
    · rw [afterGap_comment hz.atLineEnd hs, cells?_comment]
      exact ⟨[], z, .stop (fails_furtherSymbol_of_atLineEnd hz.atLineEnd), .inl ⟨rfl, rfl⟩⟩
    · rw [cells?_comma, if_neg (by simp), afterGap_of_solid (by rintro _ ⟨⟩; decide)]
      rcases reads_cells hz hs with ⟨hf, hn⟩ | ⟨c, u, l, t, hr, hl, ht⟩
      · exact ⟨[], _, .stop (Fails.map ((reads_word [','] _).failsBoth hf)),
          .inr ⟨hn, not_atLineEnd_cons hc⟩⟩
      · exact ⟨c :: l, t, .round ((reads_word [','] _).right hr) hl, ht⟩
    · obtain ⟨hb, hcomment, hcomma⟩ : isBlank c = false ∧ c ≠ '#' ∧ c ≠ ',' := by
        rcases hother with rfl | hp
        · decide
        · exact ⟨(of_isPlain hp).1, (of_isPlain hp).2.1, (of_isPlain hp).2.2.1⟩
      rw [cells?_false_cons hb hcomment hcomma,
        afterGap_of_solid (by rintro _ ⟨⟩; exact ⟨hb, hcomment⟩)]
      exact ⟨[], _, .stop (fails_furtherSymbol (by rintro _ ⟨⟩; exact hcomma)),
        .inr ⟨rfl, not_atLineEnd_cons hc⟩⟩
termination_by s => s.length

/-- **The symbols of a tape** are read as the cells of the line. -/
theorem reads_cells (hz : EndsLine z) : ∀ {s : List Char}, (∀ c ∈ s, isLineEnd c = false) →
    Fails symbol (afterGap (s ++ z)) ∧ cells? true s = none ∨
      ReadsCells z (afterGap (s ++ z)) (cells? true s)
  | [], _ => by
    rw [List.nil_append, afterGap_of_atLineEnd hz.atLineEnd]
    exact .inl ⟨fails_symbol_of_atLineEnd hz.atLineEnd, rfl⟩
  | c :: s, h => by
    obtain ⟨hc, hs⟩ := List.forall_mem_cons.mp h
    rw [List.cons_append]
    rcases blank_or_mark_or_plain hc with hb | rfl | rfl | rfl | hp
    · rw [afterGap_blank hb, cells?_blank hb]
      exact reads_cells hz hs
    · rw [afterGap_comment hz.atLineEnd hs]
      exact .inl ⟨fails_symbol_of_atLineEnd hz.atLineEnd, rfl⟩
    · rw [afterGap_of_solid (by rintro _ ⟨⟩; decide)]
      exact .inl ⟨fails_symbol_comma _, rfl⟩
    · rw [afterGap_of_solid (by rintro _ ⟨⟩; decide)]
      by_cases hq : ∃ c t, s = c :: '\'' :: t
      · obtain ⟨c, t, rfl⟩ := hq
        have ht : ∀ d ∈ t, isLineEnd d = false := fun d hd => hs d (by simp [hd])
        obtain ⟨l, u, hl, hu⟩ := rounds_cells hz ht
        exact .inr ⟨c, _, l, u, reads_quoted c (t ++ z), hl, hu.cons c⟩
      · simp only [not_exists] at hq
        have hhead : ∀ c ∈ z.head?, c ≠ '\'' := by
          rintro _ hd rfl
          exact absurd (hz.atLineEnd '\'' hd) (by decide)
        exact .inl ⟨fails_symbol_quote (ne_quoted_append hhead hz.unquoted hq), cells?_quote hq⟩
    · rw [afterGap_of_solid (by rintro _ ⟨⟩; exact ⟨(of_isPlain hp).1, (of_isPlain hp).2.1⟩),
        cells?_plain hp]
      obtain ⟨l, t, hl, ht⟩ := rounds_cells hz hs
      exact .inr ⟨c, _, l, t, reads_plain hp (s ++ z), hl, ht.cons c⟩
termination_by s => s.length

end

/-- **The tape of a line** is read up to the end of the line, if there is one. -/
theorem reads_symbols_of_cells (hz : EndsLine z) (hs : ∀ c ∈ s, isLineEnd c = false)
    (h : cells? true s = some l) : Reads symbols (afterGap (s ++ z)) (· = l) z := by
  rcases reads_cells hz hs with ⟨-, hn⟩ | ⟨c, u, l', t, hr, hl, ⟨hsome, rfl⟩ | ⟨hn, -⟩⟩
  · rw [h] at hn
    cases hn
  · rw [h] at hsome
    cases hsome
    exact reads_symbolList hr hl
  · rw [h] at hn
    cases hn

/-- Of a line that holds no tape nothing is read, or something is left. -/
theorem fails_or_reads_of_cells (hz : EndsLine z) (hs : ∀ c ∈ s, isLineEnd c = false)
    (h : cells? true s = none) : Fails symbols (afterGap (s ++ z)) ∨
      ∃ t, Reads symbols (afterGap (s ++ z)) (fun _ => True) t ∧ ¬ AtLineEnd t := by
  rcases reads_cells hz hs with ⟨hf, -⟩ | ⟨c, u, l, t, hr, hl, ⟨hsome, -⟩ | ⟨-, ht⟩⟩
  · exact .inl (Fails.map (Fails.rule Rule.symbols (Fails.map hf.both)))
  · rw [h] at hsome
    cases hsome
  · exact .inr ⟨t, (reads_symbolList hr hl).imp fun _ _ => trivial, ht⟩

/-! ### A text of its own -/

theorem fails_lineEnd_of_not_atLineEnd {t : List Char} (ht : ¬ AtLineEnd t) : Fails lineEnd t := by
  refine fails_lineEnd fun c hc => ?_
  cases he : isLineEnd c with
  | false => rfl
  | true =>
    refine absurd (fun d hd => ?_) ht
    obtain rfl : c = d := by rw [Option.mem_def.mp hc] at hd; simpa using hd
    exact he

theorem ne_nil_of_not_atLineEnd {t : List Char} (ht : ¬ AtLineEnd t) : t ≠ [] := by
  rintro rfl
  exact ht (by simp [AtLineEnd])

/-- A text of symbols is a tape if nothing comes after them, apart from empty lines. -/
theorem parse_tapeInput_of_reads (h : Reads symbols (afterGap s) (· = l) (afterGap z))
    (hz : settle false z = []) : parse tapeInput s = .ok l := by
  have hends : Reads lineEnd.star (afterGap z) (fun _ => True) [] := hz ▸ reads_lineEnds z
  have hend : Reads endOfInput [] (fun _ => True) [] := reads_endOfInput
  obtain ⟨a, c, hr, rfl, -⟩ := (((h.left hends).left hend).behindGap.unplaced Rule.tapeInput) 0
  exact parse_eq_ok_iff.mpr ⟨c, hr⟩

/-- A text that does not start with a symbol, or that has something else after its symbols, is no
tape. -/
theorem parse_tapeInput_ne (h : Fails symbols (afterGap s) ∨
    ∃ z, Reads symbols (afterGap s) (fun _ => True) (afterGap z) ∧ settle false z ≠ []) :
    parse tapeInput s ≠ .ok l := by
  have hfails : Fails ((symbols.left lineEnd.star).left endOfInput) (afterGap s) := by
    rcases h with hf | ⟨z, hr, hz⟩
    · exact Fails.map (Fails.both (Fails.map hf.both))
    · exact Fails.map ((hr.left (reads_lineEnds z)).failsBoth
        (Fails.map (Fails.rule Rule.endOfInput (fails_finish hz))))
  have hparse : Fails tapeInput s := Fails.map (Fails.rule Rule.tapeInput hfails.behindGap)
  intro hok
  obtain ⟨c, hr⟩ := parse_eq_ok_iff.mp hok
  rw [hparse 0] at hr
  cases hr

/-- **The text of a tape** on one line holds its cells. -/
theorem parse_tapeInput_eq_ok_iff (hs : ∀ c ∈ s, isLineEnd c = false) :
    parse tapeInput s = .ok l ↔ cells? true s = some l := by
  have hz : EndsLine [] := ⟨by simp [AtLineEnd], by simp⟩
  cases hcells : cells? true s with
  | some l' =>
    have hsymbols := reads_symbols_of_cells hz hs hcells
    rw [List.append_nil] at hsymbols
    rw [parse_tapeInput_of_reads (z := []) hsymbols rfl, Except.ok.injEq, Option.some.injEq]
  | none =>
    have h := fails_or_reads_of_cells hz hs hcells
    rw [List.append_nil] at h
    refine ⟨fun hok => absurd hok (parse_tapeInput_ne (h.imp_right ?_)), fun h => nomatch h⟩
    rintro ⟨t, hr, ht⟩
    refine ⟨t, ?_, fun hn => ht ?_⟩
    · rwa [hr.afterGap_eq]
    · rw [← hr.afterGap_eq]
      exact atLineEnd_of_settle_eq_nil hn

/-! ### A line of a program -/

/-- A tape declaration, up to what follows its line. -/
def tapeLine (s z : List Char) : List Char := Kind.tape.keyword.toList ++ ':' :: (s ++ z)

theorem settle_tapeLine (s z : List Char) : settle false (tapeLine s z) = tapeLine s z :=
  settle_cons_of_solid (by decide)

theorem spells_tapeLine (s z : List Char) :
    Spells (headingWords .tape ++ []) (settle false (tapeLine s z)) (s ++ z) := by
  rw [settle_tapeLine]
  have h := spelt_heading .tape (s ++ z)
  rw [List.append_assoc] at h
  exact h

/-- The heading of the line is read, then the symbols. -/
theorem reads_tapeDeclaration {t : List Char} {P : List Symbol → Prop}
    (h : Reads symbols (afterGap (s ++ z)) P t) :
    Reads declaration (settle false (tapeLine s z)) (fun x => ∃ l, x.value = .tape l ∧ P l) t := by
  have hspells := spells_tapeLine s z
  obtain ⟨s', hheading, hs'⟩ := reads_heading hspells
  cases hs'
  rw [afterGap_settle] at hheading
  have hbody : Reads (map Declaration.tape (right (heading .tape) symbols))
      (settle false (tapeLine s z)) (fun x => ∃ l, x = .tape l ∧ P l) t :=
    (hheading.right h).map fun l hl => ⟨l, rfl, hl⟩
  have hdeclared : Reads (ofKind .tape) (settle false (tapeLine s z))
      (fun x => ∃ l, x.value = .tape l ∧ P l) t := hbody.rule (Rule.declaration .tape)
  exact reads_declaration hspells hdeclared

/-- A tape declaration holds the cells of its line. -/
theorem reads_tapeLine (hz : EndsLine z) (hs : ∀ c ∈ s, isLineEnd c = false)
    (h : cells? true s = some l) :
    Reads (declaration.left (.alt lineEnd.plus.unit (.peek endOfInput)))
      (settle false (tapeLine s z)) (fun x => x.value = .tape l) (settle false z) := by
  have hend := afterGap_of_atLineEnd hz.atLineEnd
  refine reads_endLine ?_ ?_
  · rw [hend]
    refine (reads_tapeDeclaration (reads_symbols_of_cells hz hs h)).imp ?_
    rintro x ⟨_, hx, rfl⟩
    exact hx
  · rw [hend]
    exact hz.atLineEnd

/-- A line that holds no tape is no declaration. -/
theorem fails_tapeLine (hz : EndsLine z) (hs : ∀ c ∈ s, isLineEnd c = false)
    (h : cells? true s = none) :
    Fails (declaration.left (.alt lineEnd.plus.unit (.peek endOfInput)))
      (settle false (tapeLine s z)) := by
  rcases fails_or_reads_of_cells hz hs h with hf | ⟨t, hr, ht⟩
  · have hspells := spells_tapeLine s z
    obtain ⟨s', hheading, hs'⟩ := reads_heading hspells
    cases hs'
    rw [afterGap_settle] at hheading
    refine Fails.map (Fails.both ?_)
    rw [declaration_eq]
    refine fails_oneOf (fun k => ?_) _
    by_cases hk : k = .tape
    · subst hk
      exact Fails.rule (Rule.declaration .tape) (Fails.map (Fails.map (hheading.failsBoth hf)))
    · rw [← afterGap_settle]
      exact fails_ofKind (fails_heading hk hspells)
  · have hplus : Fails lineEnd.plus.unit t :=
      (Fails.map (Fails.both (fails_lineEnd_of_not_atLineEnd ht))).map
    have hpeek : Fails (.peek endOfInput) t :=
      (Fails.map (Fails.rule Rule.endOfInput (fails_finish (ne_nil_of_not_atLineEnd ht)))).peek
    exact Fails.map ((reads_tapeDeclaration hr).failsBoth (hplus.alt hpeek))

/-! ### A tape in a file -/

/-- The program that a tape is put into. -/
def tapeProgram (cells : List Symbol) : Program where
  name := "x"
  alphabet := ∅
  markers := ∅
  entry := 1
  halt := 0
  states := KeyMap.ofList [(1, .executable ∅)]
  input := some { name := "x", cells, head := 0 }

/-- The text of that program, with the line for the tape as it is. -/
def tapeFile (line : String) : String := "name: x\ntape: " ++ line ++ "\ncards:\n1:"

/-- What comes after the line for the tape. -/
def afterTape : List Char := "\ncards:\n1:".toList

theorem endsLine_afterTape : EndsLine afterTape where
  atLineEnd := by rintro _ ⟨⟩; rfl
  unquoted c t h := by cases h

theorem toList_tapeFile (line : String) : (tapeFile line).toList =
    declarationLine .name ['x'] ++ '\n' :: tapeLine (' ' :: line.toList) afterTape := by
  rw [tapeFile, String.toList_append, String.toList_append, List.append_assoc]
  rfl

theorem trim_tapeFile (line : String) : trim (tapeFile line).toList = (tapeFile line).toList := by
  have hlast : (tapeFile line).toList =
      'n' :: ("ame: x\ntape: ".toList ++ (line.toList ++ "\ncards:\n1".toList)) ++ ':' :: [] := by
    rw [tapeFile, String.toList_append, String.toList_append, List.append_assoc, List.cons_append,
      List.append_assoc, List.append_assoc]
    rfl
  rw [hlast, trim_append_cons (by decide), List.dropWhile_cons_of_neg (by decide)]
  rfl

/-- The line of the name. -/
theorem reads_nameLine {p : Program} (hp : p.name = "x") (s : List Char) :
    Reads (declaration.left (.alt lineEnd.plus.unit (.peek endOfInput)))
      (settle false (declarationLine .name ['x'] ++ '\n' :: s)) (fun x => x.value.Says p .name)
      (settle false s) := by
  have hs : Spells (headingWords .name ++ [.text ['x']])
      (settle false (declarationLine .name ['x'] ++ '\n' :: s)) ('\n' :: s) :=
    spelt_declaration .name (spelt_word (.text ['x'])) ('\n' :: s)
  have hend : AtLineEnd (afterGap ('\n' :: s)) := by
    rw [afterGap_of_solid (solid_of_lineEnd rfl)]
    rintro _ ⟨⟩
    rfl
  have hname : Reads (ofKind .name) (settle false (declarationLine .name ['x'] ++ '\n' :: s))
      (fun x => x.value.Says p .name) (afterGap ('\n' :: s)) := by
    rw [← afterGap_settle]
    refine reads_declared hs (fun s' hs' => reads_text (crisp_singleton (by decide) (by decide))
      (by simp [isLineEnd]) hs' hend) fun v hv => .name ?_
    rw [hv, hp]
    rfl
  have hskip : settle false ('\n' :: s) = settle false s := settle_cons_of_skip (.inr rfl)
  rw [← hskip]
  exact reads_endLine (reads_declaration hs hname) hend

theorem ne_nil_of_cells (hs : ∀ c ∈ s, isLineEnd c = false) (h : cells? true s = some l) :
    l ≠ [] := by
  have hz : EndsLine [] := ⟨by simp [AtLineEnd], by simp⟩
  rcases reads_cells hz hs with ⟨-, hn⟩ | ⟨c, u, l', t, -, -, ⟨hsome, -⟩ | ⟨hn, -⟩⟩
  · rw [h] at hn
    cases hn
  · rw [h] at hsome
    cases hsome
    exact List.cons_ne_nil _ _
  · rw [h] at hn
    cases hn

theorem expressible_tapeProgram (hl : l ≠ []) : (tapeProgram l).Expressible where
  name_ne := show "x" ≠ "" by decide
  name_trim := show trim "x".toList = "x".toList by decide
  name_line := show ∀ c ∈ "x".toList, c ≠ '\n' ∧ c ≠ '\r' ∧ c ≠ '#' by simp
  states := List.cons_ne_nil _ _
  halting e he h := by
    obtain rfl := List.mem_singleton.mp he
    cases h
  halt e he h := by
    obtain rfl := List.mem_singleton.mp he
    cases h
  alphabet := .inr fun e he => by
    obtain rfl := List.mem_singleton.mp he
    rfl
  input i hi := by
    cases hi
    exact ⟨rfl, hl⟩

theorem begins_afterTape (p : Program) (hp : p.states.entries = [(1, .executable ∅)]) :
    Begins ([Kind.cards].flatMap (sectionWords p)) afterTape := by
  show Begins ((headingWords .cards :: p.states.entries.flatMap stateWords) ++ []) afterTape
  rw [hp]
  refine ⟨"\n1:".toList, spelt_heading .cards _, ?_, [], ?_, ?_, rfl⟩
  · rintro _ ⟨⟩; rfl
  · exact ((spelt_word (.text ['1'])).append (spelt_word (.text [':']))) []
  · rintro _ ⟨⟩

/-- A tape on the line is the program's own. -/
theorem ofText_tapeFile_of_cells {line : String} (hs : ∀ c ∈ line.toList, isLineEnd c = false)
    (hsize : (tapeFile line).utf8ByteSize ≤ sizeLimit) (h : cells? true line.toList = some l) :
    Program.ofText (tapeFile line) = .ok (tapeProgram l) := by
  have hp := expressible_tapeProgram (ne_nil_of_cells hs h)
  have hs' : ∀ c ∈ ' ' :: line.toList, isLineEnd c = false :=
    List.forall_mem_cons.mpr ⟨rfl, hs⟩
  have htape := (reads_tapeLine endsLine_afterTape hs' ((cells?_blank rfl).trans h)).imp
    fun x hx => show x.value.Says (tapeProgram l) .tape from
      hx ▸ .tape (i := ⟨"x", l, 0⟩) rfl
  have hwrites : ∀ k ∈ [Kind.cards], writes (tapeProgram l) k = true := by simp [writes]
  have hcards := rounds_sections hp hwrites (begins_afterTape (tapeProgram l) rfl)
  have hrounds := Rounds.round (reads_nameLine rfl _) (.round htape hcards)
  rw [← toList_tapeFile] at hrounds
  obtain ⟨doc, c, hr, hdoc, -⟩ := reads_lines (r := .program) rfl hrounds 0
  refine ofText_eq_ok_iff.mpr ⟨hsize, doc, .ofKinds (tapeProgram l) [.cards, .tape, .name], ?_, ?_, rfl⟩
  · rw [trim_tapeFile]
    exact parse_eq_ok_iff.mpr ⟨c, hr⟩
  · exact foldlM_says hdoc [] (by decide)

/-- Without a tape on the line there is no program. -/
theorem ofText_tapeFile_ne {line : String} (hs : ∀ c ∈ line.toList, isLineEnd c = false)
    (h : cells? true line.toList = none) (p : Program) : Program.ofText (tapeFile line) ≠ .ok p := by
  have hs' : ∀ c ∈ ' ' :: line.toList, isLineEnd c = false :=
    List.forall_mem_cons.mpr ⟨rfl, hs⟩
  have htape := fails_tapeLine endsLine_afterTape hs' ((cells?_blank rfl).trans h)
  have hrounds := Rounds.round (R := fun x k => x.value.Says (tapeProgram []) k) (reads_nameLine rfl _) (.stop htape)
  rw [← toList_tapeFile] at hrounds
  have hfails : Fails program (tapeFile line).toList := fails_lines rfl hrounds (by
    rw [settle_tapeLine]; simp [tapeLine, Kind.keyword])
  intro hok
  obtain ⟨-, doc, -, hdoc, -⟩ := ofText_eq_ok_iff.mp hok
  rw [trim_tapeFile] at hdoc
  obtain ⟨c, hr⟩ := parse_eq_ok_iff.mp hdoc
  rw [hfails 0] at hr
  cases hr

end Format

open Format

/-- **A tape on the command line** is what is found on the line after trimming. -/
theorem tapeOfText_eq_ok_iff {s : String} (hs : ∀ c ∈ s.toList, Text.isLineEnd c = false)
    {cells : List Symbol} :
    tapeOfText s = .ok cells ↔ cells? true (Text.trim s.toList) = some cells := by
  rw [tapeOfText, mapError_eq_ok_iff,
    parse_tapeInput_eq_ok_iff fun c hc => hs c (mem_of_mem_trim hc)]

end CardMachine
