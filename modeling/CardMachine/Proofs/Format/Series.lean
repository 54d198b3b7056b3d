import CardMachine.Proofs.Format.Cells

/-! # The texts of tapes

A text of its own may hold a tape on more than one line: a line end can be a cell, in quotes, and
empty lines and comments may follow the cells. `Series l s z` says what stands at the front of such
a text, `Trailer z` what may stand after it. The reader takes a symbol wherever one stands
(`symbol_cases`) and goes on as long as a comma and another symbol come (`further_cases`), so it
takes a longest series (`exists_series`); and a series before a trailer is a longest one. So the
reader accepts exactly these texts. -/

namespace CardMachine

namespace Format

open Text (isLineEnd isSpace trim)
open Grammar

variable {c : Symbol} {l : List Symbol} {s t w z : List Char}

/-! ### The form of a tape -/

/-- How a symbol stands in a text: in quotes, or by itself if it is not one of those that mean
something else there. -/
inductive Form : Symbol → List Char → Prop where
  | quoted (c : Symbol) : Form c ['\'', c, '\'']
  | bare {c : Symbol} (hc : c ∉ [' ', '\t', ',', '\'', '#', '\n', '\r']) : Form c [c]

/-- The symbols stand at the front of the text `s`, with a comma and any blanks between one and the
next, and `z` follows them. -/
inductive Series : List Symbol → List Char → List Char → Prop where
  | last {c : Symbol} {w : List Char} (hw : Form c w) (z : List Char) : Series [c] (w ++ z) z
  | more {c : Symbol} {l : List Symbol} {w b b' s z : List Char} (hw : Form c w) (hb : Blanks b)
      (hb' : Blanks b') (hs : Series l s z) : Series (c :: l) (w ++ (b ++ ',' :: (b' ++ s))) z

/-- Blanks, line ends and comments in any order. A comment goes up to a line end or the end of the
text. -/
inductive Trailer : List Char → Prop where
  | nil : Trailer []
  | skip {c : Char} {z : List Char} (hc : c ∈ [' ', '\t', '\n', '\r']) (hz : Trailer z) :
      Trailer (c :: z)
  | comment {t z : List Char} (ht : ∀ c ∈ t, c ∉ ['\n', '\r'])
      (hend : ∀ c ∈ z.head?, c ∈ ['\n', '\r']) (hz : Trailer z) : Trailer ('#' :: (t ++ z))

theorem isLineEnd_iff {c : Char} : isLineEnd c = true ↔ c ∈ ['\n', '\r'] := by
  simp [isLineEnd]

theorem isPlain_iff : isPlain c = true ↔ c ∉ [' ', '\t', ',', '\'', '#', '\n', '\r'] := by
  simp [isPlain, isBlank, isLineEnd, and_assoc]

/-- A text is passed over to its end if it is a trailer. -/
theorem Trailer.settle_eq_nil (h : Trailer z) : settle false z = [] := by
  induction h with
  | nil => rfl
  | @skip c z hc _ ih =>
    have hskip : isBlank c = true ∨ isLineEnd c = true := by
      simpa [isBlank, isLineEnd, or_assoc] using hc
    rw [settle_cons_of_skip hskip, ih]
  | @comment t z ht hend _ ih =>
    have ht' : ∀ c ∈ t, isLineEnd c = false := fun c hc =>
      Bool.eq_false_iff.mpr fun h => ht c hc (isLineEnd_iff.mp h)
    have hend' : AtLineEnd z := fun c hc => isLineEnd_iff.mpr (hend c hc)
    rw [← settle_afterGap, afterGap_comment hend' ht', ih]

/-- A text that is passed over to its end is a trailer. -/
theorem trailer_of_settle : ∀ {z : List Char}, settle false z = [] → Trailer z
  | [], _ => .nil
  | c :: z, h => by
    by_cases hskip : isBlank c = true ∨ isLineEnd c = true
    · rw [settle_cons_of_skip hskip] at h
      exact .skip (by simpa [isBlank, isLineEnd, or_assoc] using hskip) (trailer_of_settle h)
    · by_cases hcomment : c = '#'
      · subst hcomment
        rw [settle_cons_comment, settle_inside] at h
        rw [← List.takeWhile_append_dropWhile (p := fun c => !isLineEnd c) (l := z)]
        have hshort := (List.dropWhile_sublist (fun c => !isLineEnd c) (l := z)).length_le
        refine .comment (fun d hd hn => ?_) (fun d hd => ?_) (trailer_of_settle h)
        · have hd := List.mem_takeWhile_imp hd
          rw [isLineEnd_iff.mpr hn] at hd
          cases hd
        · have hd := eq_false_of_head?_dropWhile hd
          exact isLineEnd_iff.mp (by simpa using hd)
      · rw [settle, if_neg (by simpa using hskip), if_neg hcomment] at h
        cases h
termination_by z => z.length

theorem trailer_iff : Trailer z ↔ settle false z = [] :=
  ⟨Trailer.settle_eq_nil, trailer_of_settle⟩

/-! ### One symbol -/

theorem reads_form (hw : Form c w) (t : List Char) :
    Reads symbol (w ++ t) (· = c) (afterGap t) := by
  cases hw with
  | quoted => exact reads_quoted c t
  | bare hc => exact reads_plain (isPlain_iff.mpr hc) t

theorem Form.solid (hw : Form c w) (t : List Char) : Solid (w ++ t) := by
  cases hw with
  | quoted => rintro _ ⟨⟩; decide
  | bare hc =>
    rintro _ ⟨⟩
    obtain ⟨hb, hcomment, -, -⟩ := of_isPlain (isPlain_iff.mpr hc)
    exact ⟨hb, hcomment⟩

/-- **A symbol is read where one stands**, and nowhere else. -/
theorem symbol_cases (s : List Char) : Fails symbol s ∨ ∃ c w t, Form c w ∧ s = w ++ t := by
  cases s with
  | nil => exact .inl (fails_symbol_of_atLineEnd (by simp [AtLineEnd]))
  | cons c s =>
    by_cases hp : isPlain c = true
    · exact .inr ⟨c, [c], s, .bare (isPlain_iff.mp hp), rfl⟩
    · by_cases hq : c = '\''
      · subst hq
        by_cases h : ∃ c t, s = c :: '\'' :: t
        · obtain ⟨c, t, rfl⟩ := h
          exact .inr ⟨c, _, t, .quoted c, rfl⟩
        · simp only [not_exists] at h
          exact .inl (fails_symbol_quote h)
      · exact .inl (fails_symbol (fails_quotedSymbol hq s) (by simpa using hp))

/-! ### A series of symbols -/

theorem Series.solid (h : Series l s z) : Solid s := by
  cases h with
  | last hw => exact hw.solid _
  | more hw => exact hw.solid _

/-- A series is read symbol by symbol if nothing goes on after it. -/
theorem Series.rounds (h : Series l s z) (hz : Fails furtherSymbol (afterGap z)) :
    ∃ c t l', l = c :: l' ∧ Reads symbol s (· = c) t ∧
      Rounds furtherSymbol Eq t l' (afterGap z) := by
  induction h with
  | last hw z => exact ⟨_, _, [], rfl, reads_form hw z, .stop hz⟩
  | @more c l w b b' s z hw hb hb' hs ih =>
    obtain ⟨d, t, l', rfl, hr, hl⟩ := ih hz
    have hcomma : afterGap (b ++ ',' :: (b' ++ s)) = [','] ++ (b' ++ s) := by
      rw [afterGap_blanks_append hb]
      exact afterGap_of_solid (by rintro _ ⟨⟩; decide)
    have hgap : afterGap (b' ++ s) = s := by
      rw [afterGap_blanks_append hb', afterGap_of_solid hs.solid]
    have hfirst := reads_form hw (b ++ ',' :: (b' ++ s))
    rw [hcomma] at hfirst
    rw [← hgap] at hr
    exact ⟨c, _, d :: l', rfl, hfirst, .round ((reads_word [','] (b' ++ s)).right hr) hl⟩

/-- **A series of symbols** is read if nothing goes on after it. -/
theorem Series.reads (h : Series l s z) (hz : Fails furtherSymbol (afterGap z)) :
    Reads symbols s (· = l) (afterGap z) := by
  obtain ⟨c, t, l', rfl, hr, hl⟩ := h.rounds hz
  exact reads_symbolList hr hl

/-- A comment goes up to a line end or the end of the text. -/
theorem atLineEnd_afterGap_comment (t : List Char) : AtLineEnd (afterGap ('#' :: t)) := by
  intro d hd
  rw [afterGap_eq] at hd
  have hd := eq_false_of_head?_dropWhile hd
  simpa using hd

/-- A gap before something else than a line end has no comment. -/
theorem exists_blanks (ht : ¬ AtLineEnd (afterGap t)) : ∃ b, Blanks b ∧ t = b ++ afterGap t := by
  refine ⟨t.takeWhile isBlank, blanks_takeWhile t, ?_⟩
  suffices afterGap t = t.dropWhile isBlank by rw [this, List.takeWhile_append_dropWhile]
  rw [← afterGap_dropWhile]
  refine afterGap_of_solid fun d hd => ⟨eq_false_of_head?_dropWhile hd, ?_⟩
  rintro rfl
  obtain ⟨u, hu⟩ := List.head?_eq_some_iff.mp (Option.mem_def.mp hd)
  rw [← afterGap_dropWhile, hu] at ht
  exact ht (atLineEnd_afterGap_comment u)

/-- After a symbol either a comma and what may be another symbol follow, or the series ends. -/
theorem further_cases (t : List Char) : Fails furtherSymbol (afterGap t) ∨
    ∃ b b' s, Blanks b ∧ Blanks b' ∧ t = b ++ ',' :: (b' ++ s) ∧
      (Fails symbol s → Fails furtherSymbol (afterGap t)) := by
  by_cases hcomma : ∃ u, afterGap t = ',' :: u
  · obtain ⟨u, hu⟩ := hcomma
    have hfails : Fails symbol (afterGap u) → Fails furtherSymbol (afterGap t) := fun h => by
      rw [hu]
      exact Fails.map ((reads_word [','] u).failsBoth h)
    obtain ⟨b, hb, ht⟩ := exists_blanks (t := t) (by
      rw [hu]
      exact not_atLineEnd_cons rfl)
    by_cases hend : AtLineEnd (afterGap u)
    · exact .inl (hfails (fails_symbol_of_atLineEnd hend))
    · obtain ⟨b', hb', hu'⟩ := exists_blanks hend
      exact .inr ⟨b, b', afterGap u, hb, hb', by rw [← hu', ← hu]; exact ht, hfails⟩
  · refine .inl (fails_furtherSymbol fun d hd => ?_)
    rintro rfl
    exact hcomma (List.head?_eq_some_iff.mp (Option.mem_def.mp hd))

/-- **A longest series** stands at the front of a text that starts with a symbol. -/
theorem exists_series (s : List Char) : Fails symbol s ∨
    ∃ l z, Series l s z ∧ Fails furtherSymbol (afterGap z) := by
  rcases symbol_cases s with hf | ⟨c, w, t, hw, hs⟩
  · exact .inl hf
  · refine .inr ?_
    rcases further_cases t with hf | ⟨b, b', u, hb, hb', ht, hfails⟩
    · exact ⟨[c], t, hs ▸ .last hw t, hf⟩
    · have hlt : u.length < s.length := by
        rw [hs, ht]
        simp only [List.length_append, List.length_cons]
        omega
      rcases exists_series u with hf | ⟨l, z, hl, hz⟩
      · exact ⟨[c], t, hs ▸ .last hw t, hfails hf⟩
      · exact ⟨c :: l, z, by rw [hs, ht]; exact .more hw hb hb' hl, hz⟩
termination_by s.length

/-! ### The whole text -/

theorem fails_symbols (h : Fails symbol s) : Fails symbols s :=
  Fails.map (Fails.rule Rule.symbols (Fails.map h.both))

/-- A series before a trailer is all that the reader takes. -/
theorem Series.parse (h : Series l s z) (hz : Trailer z) : Format.parse tapeInput s = .ok l := by
  have hsettle := trailer_iff.mp hz
  have hr := h.reads (fails_furtherSymbol_of_atLineEnd (atLineEnd_of_settle_eq_nil hsettle))
  rw [← afterGap_of_solid h.solid] at hr
  exact parse_tapeInput_of_reads hr hsettle

/-- **A text is read as a tape** if it is a series of the cells before a trailer. -/
theorem parse_tapeInput_iff_series (hs : ∀ c ∈ s.head?, isSpace c = false) :
    Format.parse tapeInput s = .ok l ↔ ∃ z, Series l s z ∧ Trailer z := by
  refine ⟨fun hok => ?_, fun ⟨z, h, hz⟩ => h.parse hz⟩
  by_cases hcomment : '#' ∈ s.head?
  · -- the comment goes on to the end of a line, where no symbol stands
    obtain ⟨t, rfl⟩ := List.head?_eq_some_iff.mp (Option.mem_def.mp hcomment)
    have hend := atLineEnd_afterGap_comment t
    exact absurd hok (parse_tapeInput_ne (.inl (fails_symbols (fails_symbol_of_atLineEnd hend))))
  · have hgap : afterGap s = s := afterGap_of_solid fun c hc =>
      ⟨isBlank_eq_false (hs c hc), by rintro rfl; exact hcomment hc⟩
    rcases exists_series s with hf | ⟨l', z, h, hz⟩
    · exact absurd hok (parse_tapeInput_ne (.inl (by rw [hgap]; exact fails_symbols hf)))
    · by_cases hsettle : settle false z = []
      · have hz := trailer_iff.mpr hsettle
        rw [h.parse hz] at hok
        cases hok
        exact ⟨z, h, hz⟩
      · have hr := (h.reads hz).imp fun _ _ => trivial
        rw [← hgap] at hr
        exact absurd hok (parse_tapeInput_ne (.inr ⟨z, hr, hsettle⟩))

/-! ### What is written -/

theorem form_writeSymbol (c : Symbol) : Form c (writeSymbol c) := by
  unfold writeSymbol
  split
  · exact .quoted c
  · rename_i hn
    exact .bare (isPlain_iff.mp (isPlain_of_needsQuotes_eq_false (by simpa using hn)))

theorem series_writeSymbols : ∀ (c : Symbol) (l : List Symbol) (z : List Char),
    Series (c :: l) (writeSymbols (c :: l) ++ z) z
  | c, [], z => by
    rw [writeSymbols_singleton]
    exact .last (form_writeSymbol c) z
  | c, d :: l, z => by
    have hnone : Blanks [] := by simp [Blanks]
    have hblank : Blanks [' '] := by simp [Blanks, isBlank]
    have hmore := Series.more (form_writeSymbol c) hnone hblank (series_writeSymbols d l z)
    rwa [writeSymbols_cons_cons, List.append_assoc]

theorem crisp_writeSymbol (c : Symbol) : Crisp (writeSymbol c) :=
  (Spelling.written c).crisp (t := .symbol c) trivial

theorem crisp_writeSymbols : ∀ (c : Symbol) (l : List Symbol), Crisp (writeSymbols (c :: l))
  | c, [] => by
    rw [writeSymbols_singleton]
    exact crisp_writeSymbol c
  | c, d :: l => by
    rw [writeSymbols_cons_cons]
    exact (crisp_writeSymbol c).append [',', ' '] (crisp_writeSymbols d l)

end Format

open Format

/-- **A text is read as a tape exactly if it has the form of one**: after trimming the cells stand
in it in order, one comma between one and the next, and after them come only blanks, line ends and
comments. So every tape is read back from what is written of it. -/
theorem tapeOfText_eq_ok_iff_series :
    (∀ (text : String) (cells : List Symbol), tapeOfText text = .ok cells ↔
      ∃ z, Series cells (Text.trim text.toList) z ∧ Trailer z) ∧
    ∀ (c : Symbol) (l : List Symbol), tapeOfText (tapeToText (c :: l)) = .ok (c :: l) := by
  have hread : ∀ (text : String) (cells : List Symbol), tapeOfText text = .ok cells ↔
      ∃ z, Series cells (Text.trim text.toList) z ∧ Trailer z := fun text cells => by
    rw [tapeOfText, mapError_eq_ok_iff, parse_tapeInput_iff_series head?_trim]
  refine ⟨hread, fun c l => (hread _ _).mpr ⟨[], ?_, .nil⟩⟩
  have htrim := trim_append_blanks (crisp_writeSymbols c l) (b := []) (by simp [Blanks])
  have hseries := series_writeSymbols c l []
  rw [List.append_nil] at htrim hseries
  rw [tapeToText, String.toList_ofList, htrim]
  exact hseries

end CardMachine
