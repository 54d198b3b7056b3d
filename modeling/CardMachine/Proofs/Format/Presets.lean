import CardMachine.Proofs.Format.Shape

/-! # Lists of presets

A preset is written on one line: its name, its head position and its cells. The lines are read back
one by one (`reads_presets`), since a name ends at the `@`, a head position at the colon and the
cells at the line end, and a cell that would be taken for one of these is in quotes.

The lines of a text give presets if each says one and no name comes twice
(`presetsOfLines_eq_ok_iff`). A line that is read at all has a name of letters, digits, `-` and `_`,
and at least one cell. So of the lists of presets exactly those with such names and cells, and no
name twice, are read back from the text that is written for them. -/

namespace CardMachine

open Text (decimal isSpace trim)
open Grammar

/-- The presets that have a line: the name is a word of ASCII letters, digits, `-` and `_`, and
there is a cell. -/
structure Preset.Expressible (p : Preset) : Prop where
  name_ne : p.name ≠ ""
  name_chars : ∀ c ∈ p.name.toList, c.isAlphanum = true ∨ c = '-' ∨ c = '_'
  cells : p.cells ≠ []

namespace Format

variable {p : Preset} {ps : List Preset} {s z : List Char}

/-! ### Names -/

/-- Whether a character may stand in the name of a preset. -/
def isNameChar (c : Char) : Bool := c.isAlphanum || c == '-' || c == '_'

theorem presetName_eq : presetName = (Grammar.rule .presetName (.run isNameChar)).unplaced := rfl

theorem isNameChar_iff {c : Char} :
    isNameChar c = true ↔ c.isAlphanum = true ∨ c = '-' ∨ c = '_' := by
  simp [isNameChar, or_assoc]

theorem isSpace_eq_false_of_isNameChar {c : Char} (h : isNameChar c = true) :
    isSpace c = false ∧ c ≠ '#' := by
  refine ⟨isSpace_eq_false_of_visible ?_, by rintro rfl; cases h⟩
  rcases isNameChar_iff.mp h with h | rfl | rfl
  · have hr : ((decide (c.val ≥ 65 ∧ c.val ≤ 90) || (c.val ≥ 97 && c.val ≤ 122)) ||
        (c.val ≥ 48 && c.val ≤ 57)) = true := h
    simp only [Bool.or_eq_true, Bool.and_eq_true, decide_eq_true_eq, ge_iff_le,
      UInt32.le_iff_toNat_le, UInt32.reduceToNat, Char.toNat_val] at hr
    omega
  · decide
  · decide

theorem toList_name_ne_nil (hp : p.Expressible) : p.name.toList ≠ [] :=
  fun h => hp.name_ne (String.toList_eq_nil_iff.mp h)

theorem crisp_presetName (hp : p.Expressible) : Crisp p.name.toList :=
  crisp_of_forall (toList_name_ne_nil hp) fun c hc =>
    isSpace_eq_false_of_isNameChar (isNameChar_iff.mpr (hp.name_chars c hc))

/-! ### Lines -/

/-- The words of the line of a preset. -/
def presetWords (p : Preset) : List Token :=
  [.text p.name.toList, .text ['@'], .text (decimal p.head.toNat), .text [':']] ++
    symbolWords p.cells

theorem crisp_at : Crisp ['@'] := crisp_singleton (by decide) (by decide)

theorem spelt_preset (hp : p.Expressible) : Spelt (presetWords p) (presetLine p) := by
  obtain ⟨c, l, hl⟩ := List.exists_cons_of_ne_nil hp.cells
  have hcells := spelt_symbols p.cells
  rw [hl] at hcells
  have hname := (spelt_word (.text p.name.toList)).append (spelt_word (.text ['@'])).blank
  have hhead := (spelt_word (.text (decimal p.head.toNat))).append (spelt_word (.text [':']))
  have := hname.append (hhead.blank.append hcells.blank)
  simpa [presetWords, presetLine, symbolWords, hl] using this

theorem layout_presets : ∀ {ps : List Preset}, (∀ p ∈ ps, p.Expressible) →
    Layout (ps.map presetWords) (unlines (ps.map presetLine))
  | [], _ => .nil
  | p :: _, h => (layout_presets fun q hq => h q (List.mem_cons_of_mem _ hq)).cons
      (spelt_preset (h p List.mem_cons_self))

theorem wellSpaced_presets (h : ∀ p ∈ ps, p.Expressible) : WellSpaced (ps.map presetWords) := by
  intro l hl
  obtain ⟨p, hp, rfl⟩ := List.mem_map.mp hl
  refine ⟨by simp [presetWords], ?_⟩
  simp only [presetWords, List.cons_append, List.nil_append, List.mem_cons]
  rintro t (rfl | rfl | rfl | rfl | ht)
  · exact crisp_presetName (h p hp)
  · exact crisp_at
  · exact crisp_decimal _
  · exact crisp_colon
  · exact crisp_symbolWords t ht

theorem begins_presets (h : ∀ p ∈ ps, p.Expressible) :
    Begins (ps.map presetWords) (trim (presetsToText ps).toList) := by
  have hl := layout_presets h
  have hw := wellSpaced_presets h
  rw [presetsToText, String.toList_ofList]
  cases ps with
  | nil => rfl
  | cons p ps => exact begins_trim hl hw

/-! ### Reading the lines back -/

/-- The line says what the preset is. -/
structure PresetLine.Says (line : PresetLine) (p : Preset) : Prop where
  name : line.name = p.name.toList
  head : line.head.value = p.head.toNat
  cells : line.cells = p.cells

theorem reads_presetName (hp : p.Expressible) (hs : ∀ c ∈ s.head?, isNameChar c = false) :
    Reads presetName (p.name.toList ++ s) (· = p.name.toList) (afterGap s) := by
  rw [presetName_eq]
  exact (reads_run (toList_name_ne_nil hp)
    (fun c hc => isNameChar_iff.mpr (hp.name_chars c hc)) hs).unplaced Rule.presetName

theorem reads_preset (hp : p.Expressible) (h : Spells (presetWords p) s z)
    (hz : AtLineEnd (afterGap z)) :
    Reads preset (afterGap s) (fun x => x.value.Says p) (afterGap z) := by
  obtain ⟨s₁, h₁, h⟩ := reads_longest (fun _ => isSpace_eq_false_of_isNameChar)
    (crisp_presetName hp) (fun _ => reads_presetName hp) h (eq_false_of_spells rfl crisp_at)
  obtain ⟨s₂, h₂, h⟩ := reads_token h crisp_at
  obtain ⟨s₃, h₃, h⟩ := reads_numeral (crisp_decimal _) (fun _ => reads_number _) h
    (eq_false_of_spells rfl crisp_colon)
  obtain ⟨s₄, h₄, h⟩ := reads_token h crisp_colon
  have h₅ := reads_symbols hp.cells h hz
  have hparts := (h₁.left h₂).both (((h₃.rule .index).left h₄).both h₅)
  refine (hparts.map (Q := (PresetLine.Says · p)) ?_).rule .preset
  rintro ⟨name, head, cells⟩ ⟨hname, hhead, hcells⟩
  exact ⟨hname, hhead, hcells⟩

theorem fails_preset_nil : Fails preset [] := by
  have hname : Fails presetName [] := Fails.map (Fails.rule Rule.presetName (fails_run (by simp)))
  exact Fails.rule Rule.preset (Fails.map (Fails.both (Fails.map hname.both)))

theorem rounds_presets : ∀ {ps : List Preset} {z : List Char}, (∀ p ∈ ps, p.Expressible) →
    Begins (ps.map presetWords) z →
      Rounds (preset.left (.alt lineEnd.plus.unit (.peek endOfInput)))
        (fun x p => x.value.Says p) (settle false z) ps []
  | [], z, _, h => by
    rw [show settle false z = [] from h]
    exact .stop (Fails.map fails_preset_nil.both)
  | p :: ps, z, hps, ⟨y, hs, hy, h⟩ => by
    have hr := reads_preset (hps p List.mem_cons_self) hs hy
    rw [afterGap_settle] at hr
    exact .round (reads_endLine hr hy)
      (rounds_presets (fun q hq => hps q (List.mem_cons_of_mem _ hq)) h)

/-- **The text of a list of presets is read** as lines that say what they are. -/
theorem reads_presets (h : ∀ p ∈ ps, p.Expressible) : ∃ lines,
    parse presets (trim (presetsToText ps).toList) = .ok lines ∧
      List.Forall₂ (fun x p => x.value.Says p) lines ps := by
  have hr : Reads presets _ _ _ := reads_lines rfl (rounds_presets h (begins_presets h))
  obtain ⟨lines, c, hread, hlines, -⟩ := hr 0
  exact ⟨lines, parse_eq_ok_iff.mpr ⟨c, hread⟩, hlines⟩

/-! ### The presets of the lines -/

/-- A line is added if its name is new. -/
theorem addPreset_eq_ok_iff {before : List Preset} {line : Located PresetLine} :
    addPreset before line = .ok ps ↔ ∃ p, line.value.Says p ∧
      p.name ∉ before.map Preset.name ∧ ps = before ++ [p] := by
  simp only [addPreset, bind_eq_ok_iff, headInRange_eq_ok_iff, List.any_eq_true, beq_iff_eq]
  constructor
  · rintro ⟨head, hhead, h⟩
    split at h
    · cases h
    · rename_i hnew
      cases h
      refine ⟨⟨_, _, _⟩, ⟨?_, hhead, rfl⟩, ?_, rfl⟩
      · rw [String.toList_ofList]
      · simpa using hnew
  · rintro ⟨p, ⟨hname, hhead, hcells⟩, hnew, rfl⟩
    refine ⟨p.head, hhead, ?_⟩
    rw [hname, hcells, String.ofList_toList, if_neg (by simpa using hnew)]

/-- The presets of the lines come after those before them, and all names differ. -/
theorem foldlM_addPreset_eq_ok_iff {lines : List (Located PresetLine)} {before : List Preset}
    (hb : (before.map Preset.name).Nodup) : lines.foldlM addPreset before = .ok ps ↔
      ∃ after, List.Forall₂ (fun x p => x.value.Says p) lines after ∧ ps = before ++ after ∧
        (ps.map Preset.name).Nodup := by
  induction lines generalizing before with
  | nil =>
    rw [List.foldlM_nil]
    constructor
    · intro h
      cases h
      exact ⟨[], .nil, (List.append_nil _).symm, hb⟩
    · rintro ⟨_, ⟨⟩, rfl, -⟩
      rw [List.append_nil]
      rfl
  | cons line lines ih =>
    simp only [List.foldlM_cons, bind_eq_ok_iff, addPreset_eq_ok_iff]
    have hadd : ∀ p, p.name ∉ before.map Preset.name →
        ((before ++ [p]).map Preset.name).Nodup := fun p hp => by
      simpa [List.nodup_append, hb] using hp
    constructor
    · rintro ⟨_, ⟨p, hp, hnew, rfl⟩, h⟩
      obtain ⟨after, hafter, rfl, hn⟩ := (ih (hadd p hnew)).mp h
      exact ⟨p :: after, .cons hp hafter, by simp, hn⟩
    · rintro ⟨all, hall, hps, hn⟩
      cases hall with
      | @cons _ p _ after hp hafter =>
        have hnew : p.name ∉ before.map Preset.name := by
          rw [hps, List.map_append, List.map_cons, List.nodup_append] at hn
          exact fun hmem => hn.2.2 _ hmem _ List.mem_cons_self rfl
        exact ⟨_, ⟨p, hp, hnew, rfl⟩, (ih (hadd p hnew)).mpr ⟨after, hafter, by simp [hps], hn⟩⟩

/-- **When lines are presets**: each of them says one, and no name comes twice. -/
theorem presetsOfLines_eq_ok_iff {lines : List (Located PresetLine)} :
    presetsOfLines lines = .ok ps ↔
      List.Forall₂ (fun x p => x.value.Says p) lines ps ∧ (ps.map Preset.name).Nodup := by
  rw [presetsOfLines, foldlM_addPreset_eq_ok_iff (by simp)]
  simp

theorem presetsOfText_eq_ok_iff {s : String} : presetsOfText s = .ok ps ↔
    s.utf8ByteSize ≤ sizeLimit ∧ ∃ lines, parse presets (trim s.toList) = .ok lines ∧
      presetsOfLines lines = .ok ps := by
  simp only [presetsOfText, readPresets, bind_eq_ok_iff, mapError_eq_ok_iff, blameText_eq_ok_iff]
  constructor
  · rintro ⟨⟨⟩, hs, h⟩
    exact ⟨checkSize_eq_ok_iff.mp hs, h⟩
  · rintro ⟨hs, h⟩
    exact ⟨(), checkSize_eq_ok_iff.mpr hs, h⟩

/-! ### The presets that texts give -/

/-- The content of a line is that of a preset which has one. -/
structure PresetLine.Filled (line : PresetLine) : Prop where
  name_ne : line.name ≠ []
  name_chars : ∀ c ∈ line.name, isNameChar c = true
  cells : line.cells ≠ []

theorem yields_preset (s : List Char) : Yields s preset (fun x => x.value.Filled) := by
  have hname : Yields s presetName (fun w => w ≠ [] ∧ ∀ c ∈ w, isNameChar c = true) := by
    rw [presetName_eq]
    exact (yields_run isNameChar).unplaced Rule.presetName
  have hparts := (hname.left (.word ['@'])).both
    (((yields_any index).left (.word [':'])).both yields_symbols)
  refine (hparts.map (Q := PresetLine.Filled) ?_).rule .preset
  rintro ⟨name, head, cells⟩ ⟨hname, -, hcells⟩
  exact ⟨hname.1, hname.2, hcells⟩

theorem PresetLine.Says.expressible {line : PresetLine} (h : line.Says p) (hf : line.Filled) :
    p.Expressible where
  name_ne := by
    intro hn
    have := hf.name_ne
    rw [h.name, hn] at this
    exact this rfl
  name_chars c hc := isNameChar_iff.mp (hf.name_chars c (h.name ▸ hc))
  cells := h.cells ▸ hf.cells

/-- **Presets that were read have lines.** -/
theorem expressible_of_presetsOfLines {lines : List (Located PresetLine)}
    (h : List.Forall₂ (fun x p => x.value.Says p) lines ps) (hf : ∀ x ∈ lines, x.value.Filled) :
    ∀ p ∈ ps, p.Expressible := by
  induction h with
  | nil => exact fun p hp => by cases hp
  | cons hx _ ih =>
    intro p hp
    rcases List.mem_cons.mp hp with rfl | hp
    · exact hx.expressible (hf _ List.mem_cons_self)
    · exact ih (fun x hx => hf x (List.mem_cons_of_mem _ hx)) p hp

end Format

open Format

/-- **Exactly the lists of presets that have lines, no two with the same name, are read back** from
the text that is written for them. -/
theorem presetsOfText_presetsToText_iff (ps : List Preset) :
    presetsOfText (presetsToText ps) = .ok ps ↔
      (presetsToText ps).utf8ByteSize ≤ sizeLimit ∧ (∀ p ∈ ps, p.Expressible) ∧
        (ps.map Preset.name).Nodup := by
  rw [presetsOfText_eq_ok_iff]
  refine and_congr_right fun _ => ⟨?_, ?_⟩
  · rintro ⟨lines, hparse, hlines⟩
    obtain ⟨c, hr⟩ := parse_eq_ok_iff.mp hparse
    obtain ⟨hps, hnodup⟩ := presetsOfLines_eq_ok_iff.mp hlines
    have hfilled := yields_lines .presets yields_preset _ lines c hr
    exact ⟨expressible_of_presetsOfLines hps hfilled, hnodup⟩
  · rintro ⟨hps, hnodup⟩
    obtain ⟨lines, hparse, hlines⟩ := reads_presets hps
    exact ⟨lines, hparse, presetsOfLines_eq_ok_iff.mpr ⟨hlines, hnodup⟩⟩

-- cells that have a meaning of their own in a line
example :
    let presets := [⟨"a-1", [',', '\n', '#', '\'', '@', ' '], 7⟩, ⟨"_", [':'], 0⟩]
    presetsOfText (presetsToText presets) = .ok presets := rfl

end CardMachine
