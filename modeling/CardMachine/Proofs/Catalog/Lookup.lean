import CardMachine.Catalog.Basic
import CardMachine.Proofs.Format.Presets
import Mathlib.Data.List.Nodup

/-! # Finding presets by name

A catalog finds the first preset whose name is the one asked for, whatever the case of its letters
(`preset_eq_ok_iff`). A list of presets is read if no name comes twice, and there the case of the
letters counts. So a list may hold two names that are the same to the catalog. Each of them is found
under both, and of the two presets only the first: a preset is found under its own name exactly if
no preset before it has a name that differs from it in the case of letters only. -/

namespace CardMachine

open Text (sameIgnoringCase)

theorem Text.sameIgnoringCase_refl (s : String) : sameIgnoringCase s s = true := beq_self_eq_true _

namespace Catalog

variable {c : Catalog} {name : String} {p : Preset}

/-- **The first preset with a name is found.** -/
theorem preset_eq_ok_iff : c.preset name = .ok p ↔
    sameIgnoringCase p.name name = true ∧ ∃ before after, c.presets = before ++ p :: after ∧
      ∀ q ∈ before, sameIgnoringCase q.name name = false := by
  unfold preset
  cases hfind : c.presets.find? fun q => sameIgnoringCase q.name name with
  | none =>
    rw [List.find?_eq_none] at hfind
    simp only [reduceCtorEq, false_iff]
    rintro ⟨hp, before, after, hsplit, -⟩
    exact hfind p (by simp [hsplit]) hp
  | some q =>
    have hfirst : ∀ p, c.presets.find? (fun q => sameIgnoringCase q.name name) = some p ↔ _ :=
      fun p => List.find?_eq_some_iff_append
    rw [Except.ok.injEq, ← Option.some.injEq, ← hfind, hfirst]
    simp only [Bool.not_eq_true']

/-- A preset is found under the name of each preset of the catalog. -/
theorem exists_preset_name (hp : p ∈ c.presets) : ∃ q ∈ c.presets,
    sameIgnoringCase q.name p.name = true ∧ c.preset p.name = .ok q := by
  unfold preset
  cases hfind : c.presets.find? fun q => sameIgnoringCase q.name p.name with
  | none => exact absurd (Text.sameIgnoringCase_refl p.name) (List.find?_eq_none.mp hfind p hp)
  | some q =>
    have hname : sameIgnoringCase q.name p.name = true := by simpa using List.find?_some hfind
    exact ⟨q, List.mem_of_find?_eq_some hfind, hname, rfl⟩

/-- **When a preset of a list that was read is found under its own name**: if no preset before it
has a name that is the same but for the case of letters. Under its name there is always such a
preset to be found. -/
theorem preset_name_eq_ok_iff {t : String} {ps : List Preset} (h : presetsOfText t = .ok ps)
    (programs : List Program) (hp : p ∈ ps) :
    let c : Catalog := ⟨programs, ps⟩
    (∃ q ∈ ps, sameIgnoringCase q.name p.name = true ∧ c.preset p.name = .ok q) ∧
    (c.preset p.name = .ok p ↔ ∀ before after, ps = before ++ p :: after →
      ∀ q ∈ before, sameIgnoringCase q.name p.name = false) := by
  intro c
  obtain ⟨-, lines, -, hlines⟩ := Format.presetsOfText_eq_ok_iff.mp h
  have hnodup : ps.Nodup := (Format.presetsOfLines_eq_ok_iff.mp hlines).2.of_map
  refine ⟨exists_preset_name (c := c) hp, preset_eq_ok_iff.trans ⟨?_, fun hbefore => ?_⟩⟩
  · rintro ⟨-, before, after, hsplit, hfirst⟩ before' after' hsplit'
    -- the preset stands at one place only
    have hplace : p ∉ before ++ after := by
      have hsplit : ps = before ++ p :: after := hsplit
      rw [hsplit, List.nodup_middle] at hnodup
      exact (List.nodup_cons.mp hnodup).1
    rw [List.mem_append, not_or] at hplace
    have hsame : before ++ p :: after = before' ++ p :: after' := hsplit.symm.trans hsplit'
    obtain ⟨rfl, -, -⟩ := (List.append_cons_inj_of_notMem hplace.1 hplace.2).mp hsame
    exact hfirst
  · obtain ⟨before, after, hsplit⟩ := List.append_of_mem hp
    exact ⟨Text.sameIgnoringCase_refl p.name, before, after, hsplit, hbefore before after hsplit⟩

/-- Two presets whose names differ in the case of one letter. -/
def twins : List Preset := [⟨"word", ['1'], 0⟩, ⟨"Word", ['0', '0'], 1⟩]

theorem preset_name_first_twin :
    presetsOfText "word @ 0: 1\nWord @ 1: 0, 0\n" = .ok twins ∧ ⟨"word", ['1'], 0⟩ ∈ twins ∧
      (⟨[], twins⟩ : Catalog).preset "word" = .ok ⟨"word", ['1'], 0⟩ := by
  have hread : presetsOfText "word @ 0: 1\nWord @ 1: 0, 0\n" = .ok twins := rfl
  have hmem : (⟨"word", ['1'], 0⟩ : Preset) ∈ twins := by decide
  refine ⟨hread, hmem, (preset_name_eq_ok_iff hread [] hmem).2.mpr fun before after h => ?_⟩
  cases before with
  | nil => exact fun q hq => by cases hq
  | cons q before => simp [twins, List.cons_eq_append_iff] at h

/-- The second of the two is read, and the first is found under its name. -/
theorem preset_name_second_twin :
    presetsOfText "word @ 0: 1\nWord @ 1: 0, 0\n" = .ok twins ∧
      ⟨"Word", ['0', '0'], 1⟩ ∈ twins ∧
      (⟨[], twins⟩ : Catalog).preset "Word" = .ok ⟨"word", ['1'], 0⟩ ∧
      (⟨[], twins⟩ : Catalog).preset "Word" ≠ .ok ⟨"Word", ['0', '0'], 1⟩ := by
  have hfound : (⟨[], twins⟩ : Catalog).preset "Word" = .ok ⟨"word", ['1'], 0⟩ := rfl
  refine ⟨rfl, by decide, hfound, fun h => ?_⟩
  rw [hfound, Except.ok.injEq] at h
  exact absurd h (by decide)

end Catalog

end CardMachine
