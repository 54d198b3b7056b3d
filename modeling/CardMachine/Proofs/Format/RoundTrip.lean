import CardMachine.Check.Basic
import CardMachine.Proofs.Format.Shape

/-! # Round trips

A program is read from every layout of its declarations, in any order, so it is read from the text
that is written for it. This needs that the program has a text at all, and the size limit; it needs
no more, since a program that was read back from its own text is expressible.

A program that was read from some other text is expressible as well, but for its name: the name is
trimmed of white space that the grammar takes for a name, and nothing may be left of it. Then the
text that is written for the program has no name and is not read (`ofText_toText_ne`). -/

namespace CardMachine

open Text (trim trimRight isLineEnd isSpace)
open Grammar

namespace Format

variable {p : Program}

/-! ### From layouts to programs -/

/-- A layout gives the declarations of the program. -/
theorem declared_of_laidOut (hp : p.Expressible) {s : List Char} (h : p.LaidOut s) :
    ∃ doc d, parse program (trim s) = .ok doc ∧ Declared.ofDocument doc = .ok d ∧
      d.toProgram = .ok p := by
  obtain ⟨doc, order, hdoc, horder, hsays⟩ := parse_layout hp h
  exact ⟨doc, _, hdoc, ofDocument_says hsays horder, toProgram_ofProgram hp⟩

theorem ofText_toText_of_expressible (hp : p.Expressible)
    (hs : p.toText.utf8ByteSize ≤ sizeLimit) : Program.ofText p.toText = .ok p := by
  have hlayout : p.LaidOut p.toText.toList := laidOut_toText fun i hi => (hp.input i hi).2
  exact ofText_eq_ok_iff.mpr ⟨hs, declared_of_laidOut hp hlayout⟩

/-! ### Programs without a name -/

/-- The text of a program without a name starts with a heading that nothing follows. -/
theorem toText_of_name_eq_empty (hn : p.name = "") :
    ∃ r, p.toText.toList = Kind.name.keyword.toList ++ ':' :: ' ' :: '\n' :: r := by
  obtain ⟨r, hr⟩ : ∃ r, blocks p = [declarationLine .name p.name.toList] :: r := ⟨_, rfl⟩
  refine ⟨unlines r.flatten, ?_⟩
  rw [Program.toText, String.toList_ofList, hr, List.flatten_cons, unlines_append, hn]
  rfl

/-- What is left of the line after it was trimmed is at most a blank. -/
theorem atLineEnd_afterGap_trimRight (r : List Char) :
    AtLineEnd (afterGap (trimRight (' ' :: '\n' :: r))) := by
  have hs := trimRight_append_takeWhile (' ' :: '\n' :: r)
  generalize trimRight (' ' :: '\n' :: r) = y at hs
  match y with
  | [] => exact nofun
  | [c] =>
    obtain rfl : c = ' ' := (List.cons.inj hs).1
    exact nofun
  | c :: d :: y =>
    obtain rfl : c = ' ' := (List.cons.inj hs).1
    obtain rfl : d = '\n' := (List.cons.inj (List.cons.inj hs).2).1
    rintro c ⟨⟩
    rfl

/-- A heading that nothing follows is no declaration. -/
theorem fails_declaration_of_nameless {s y : List Char} (hs : Spells (headingWords .name ++ []) s y)
    (hy : AtLineEnd (afterGap y)) : Fails declaration (afterGap s) := by
  have hname : Fails (ofKind .name) (afterGap s) := by
    obtain ⟨s', hr, h⟩ := reads_heading hs
    cases h
    have htext : Fails text (afterGap y) :=
      Fails.map (Fails.rule Rule.text (fails_run (hy.eq_false rfl rfl)))
    exact Fails.rule (Rule.declaration .name) (Fails.map (Fails.map (hr.failsBoth htext)))
  rw [declaration_eq]
  refine fails_oneOf (fun k => ?_) _
  by_cases hk : k = .name
  · exact hk ▸ hname
  · exact fails_ofKind (fails_heading hk hs)

/-- **The text of a program without a name is not read.** -/
theorem ofText_toText_ne {q : Program} (hn : p.name = "") : Program.ofText p.toText ≠ .ok q := by
  intro h
  obtain ⟨-, doc, -, hdoc, -⟩ := ofText_eq_ok_iff.mp h
  obtain ⟨c, hr⟩ := parse_eq_ok_iff.mp hdoc
  obtain ⟨r, ht⟩ := toText_of_name_eq_empty hn
  have hcrisp : Crisp (Kind.name.keyword.toList ++ [':']) :=
    (crisp_keyword .name).append [] crisp_colon
  have hd := fails_declaration_of_nameless (spelt_heading .name _) (atLineEnd_afterGap_trimRight r)
  rw [hcrisp.afterGap_append, ← hcrisp.settle_append] at hd
  have hf := fails_program hd (by rw [hcrisp.settle_append]; simp) 0
  rw [ht, trim_append_cons (by decide)] at hr
  rw [List.append_assoc] at hf
  cases hr.symm.trans hf

end Format

open Format

namespace Program

variable {p : Program}

/-- **Exactly the expressible programs are read back** from the text that is written for them. -/
theorem ofText_toText_iff (p : Program) : ofText p.toText = .ok p ↔
    p.toText.utf8ByteSize ≤ sizeLimit ∧ p.Expressible := by
  constructor
  · intro h
    have hn : p.name ≠ "" := fun hn => ofText_toText_ne hn h
    exact ⟨(ofText_eq_ok_iff.mp h).1, expressible_of_ofText h hn⟩
  · rintro ⟨hs, hp⟩
    exact ofText_toText_of_expressible hp hs

/-- **A program that was read is read back** from the text that is written for it, if its name is
not empty. -/
theorem ofText_toText_of_ofText {t : String} (h : ofText t = .ok p)
    (hs : p.toText.utf8ByteSize ≤ sizeLimit) : ofText p.toText = .ok p ↔ p.name ≠ "" := by
  constructor
  · exact fun hp hn => ofText_toText_ne hn hp
  · intro hn
    exact ofText_toText_of_expressible (expressible_of_ofText h hn) hs

/-- One card with one action, under a name. -/
def oneStep (name : String) : Program where
  name
  alphabet := KeySet.ofList ['a']
  markers := ∅
  entry := 1
  halt := 0
  states := KeyMap.empty.insert 1 (.executable (KeyMap.empty.insert 'a' ⟨'a', 1, 0⟩))
  input := none

theorem ofText_toText_oneStep : ofText (oneStep "step").toText = .ok (oneStep "step") :=
  (ofText_toText_of_ofText (t := "name: step # once\ncards:\n1:\na -> a, 1, 0") rfl
    (by decide)).mpr (by decide)

/-- A no-break space is taken for a name and trimmed away. The program has no problems, but its text
is not read. -/
theorem ofText_toText_nameless :
    ofText "name: \u00a0\nalphabet: a\ncards:\n  1:\n    a -> a, +1, 0\n" = .ok (oneStep "") ∧
      (oneStep "").problems = [] ∧ (oneStep "").toText.utf8ByteSize ≤ sizeLimit ∧
      ofText (oneStep "").toText ≠ .ok (oneStep "") :=
  ⟨rfl, rfl, by decide, ofText_toText_ne rfl⟩

/-- **Layout and order do not matter**: a program is read from every layout of its declarations. -/
theorem ofText_of_laidOut {s : String} (hp : p.Expressible) (h : p.LaidOut s.toList)
    (hs : s.utf8ByteSize ≤ sizeLimit) : ofText s = .ok p := by
  obtain ⟨doc, d, hdoc, hd, hprogram⟩ := declared_of_laidOut hp h
  exact ofText_eq_ok_iff.mpr ⟨hs, doc, d, hdoc, hd, hprogram⟩

theorem ofText_of_laidOut_oneStep :
    ofText "cards: # one\r1 :\r\na->'a',+1,0\n\n\tname:step\nhalt: 0\nentry: 1\nalphabet: a\n" =
      .ok (oneStep "step") := by
  refine ofText_of_laidOut (by decide) ⟨[.cards, .name, .halt, .entry, .alphabet], by decide, ?_⟩
    (by decide)
  have hfeed := lineTail_lineFeed
  have hcrlf : LineTail ['\r', '\n'] :=
    .intro (b := []) (c := []) (by simp [Blanks]) (.inl rfl) (.inr (.inl rfl))
  have hcomment : LineTail [' ', '#', ' ', 'o', 'n', 'e', '\r'] :=
    .intro (b := [' ']) (c := ['#', ' ', 'o', 'n', 'e']) (by simp [Blanks, isBlank])
      (.inr ⟨_, rfl, by simp [Text.isLineEnd]⟩) (.inr (.inr rfl))
  have hheader := (spelt_word (.text ['1'])).append (spelt_word (.text [':'])).blank
  have haction := (spelt_word (.written 'a')).append <| (spelt_word (.text ['-', '>'])).append <|
    (spelt_word (.quoted 'a')).append <| (spelt_word (.text [','])).append <|
    (spelt_word (.text ['+', '1'])).append <| (spelt_word (.text [','])).append <|
    spelt_word (.text ['0'])
  have hname := Spelt.blanks (b := ['\t']) (by simp [Blanks, isBlank])
    ((spelt_heading .name).append (spelt_word (.text "step".toList)))
  have hhalt := spelt_declaration .halt (spelt_word (.text ['0']))
  have hentry := spelt_declaration .entry (spelt_word (.text ['1']))
  have halphabet := spelt_declaration .alphabet (spelt_symbols ['a'])
  exact .spelt (spelt_heading .cards) hcomment <| .spelt hheader hcrlf <| .spelt haction hfeed <|
    .blank hfeed <| .spelt hname hfeed <| .spelt hhalt hfeed <| .spelt hentry hfeed <|
    .spelt halphabet hfeed .nil

end Program

end CardMachine
