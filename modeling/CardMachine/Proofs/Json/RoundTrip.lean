import CardMachine.Json.Forms
import CardMachine.Json.Read
import CardMachine.Proofs.Format.Resolve
import Mathlib.Data.List.Nodup

/-! # A form read back

The reader of each form, given the form of a value, gives the value. A number is in range since it
was a word of the right size, a character is the only one of its string, and a key of a map is
spelled in one way only: so keys that differ have spellings that differ (`proper_toJson`), and no
entry is lost when the entries are put into a map again (`KeyMap.ofList_entries`).

A reader of a record is described by the parts it takes (`Parts`): what the parts must be read as
for the record to be read as a given value. -/

namespace CardMachine

open Json
open Format (word32?_eq_some_iff word64?_eq_some_iff signed64?_eq_some_iff)

namespace Json

/-! ### Numbers, characters and strings -/

@[simp] theorem word32?_toNat (w : UInt32) : word32? (.int w.toNat) = some w :=
  word32?_eq_some_iff.mpr rfl

@[simp] theorem word64?_toNat (w : UInt64) : word64? (.int w.toNat) = some w :=
  word64?_eq_some_iff.mpr rfl

@[simp] theorem signed64?_toInt (w : Int64) : signed64? (.int w.toInt) = some w :=
  signed64?_eq_some_iff.mpr rfl

theorem charOfString?_eq_some_iff {s : String} {c : Char} :
    charOfString? s = some c ↔ s = String.singleton c := by
  have hs : s = String.singleton c ↔ s.toList = [c] := by
    rw [← String.toList_inj, String.toList_singleton]
  rw [hs, charOfString?]
  split
  · rename_i d hd
    rw [hd, Option.some.injEq, List.cons.injEq, and_iff_left rfl]
  · rename_i hne
    exact ⟨fun h => (nomatch h), fun h => absurd h (hne c)⟩

theorem charOfString?_singleton (c : Char) : charOfString? (String.singleton c) = some c :=
  charOfString?_eq_some_iff.mpr rfl

@[simp] theorem char?_ofChar (c : Char) : char? (ofChar c) = some c := charOfString?_singleton c

/-- **The spelling of a key** is the one in which the number is written. -/
theorem word32OfKey?_eq_some_iff {s : String} {w : UInt32} :
    word32OfKey? s = some w ↔ s = String.ofList (Text.decimal w.toNat) := by
  unfold word32OfKey?
  dsimp only
  constructor
  · intro h
    split at h
    · rename_i hs
      obtain ⟨-, hs⟩ := Bool.and_eq_true_iff.mp hs
      rw [← word32?_eq_some_iff.mp h, eq_of_beq hs, String.ofList_toList]
    · cases h
  · rintro rfl
    have hvalue : Text.decimalValue (Text.decimal w.toNat) = w.toNat :=
      Nat.ofDigitChars_ten_toDigits
    have hne : Text.decimal w.toNat ≠ [] := Nat.toDigits_ne_nil
    have hdigits : (Text.decimal w.toNat).all Char.isDigit = true :=
      List.all_eq_true.mpr fun _ hc => Format.isDigit_of_mem_decimal hc
    simp [hvalue, hne, hdigits, word32?_eq_some_iff]

theorem word32OfKey?_decimal (w : UInt32) :
    word32OfKey? (String.ofList (Text.decimal w.toNat)) = some w :=
  word32OfKey?_eq_some_iff.mpr rfl

/-! ### Composites -/

/-- Items are read as a list, each as the member at its place. -/
theorem mapM_eq_some_iff {α β : Type} {f : α → Option β} : ∀ {l : List α} {l' : List β},
    l.mapM f = some l' ↔ List.Forall₂ (fun a b => f a = some b) l l'
  | [], l' => by cases l' <;> simp
  | a :: l, l' => by
    rw [List.forall₂_cons_left_iff, List.mapM_cons]
    simp only [Option.bind_eq_bind, Option.bind_eq_some_iff, Option.pure_def, Option.some.injEq,
      mapM_eq_some_iff]
    constructor
    · rintro ⟨b, hb, l', hl, rfl⟩
      exact ⟨b, l', hb, hl, rfl⟩
    · rintro ⟨b, l', hb, hl, rfl⟩
      exact ⟨b, hb, l', hl, rfl⟩

theorem items?_map {α : Type} {item? : Json → Option α} {form : α → Json} (l : List α)
    (h : ∀ a ∈ l, item? (form a) = some a) : items? item? (.arr (l.map form)) = some l :=
  mapM_eq_some_iff.mpr (List.forall₂_map_left_iff.mpr (List.forall₂_same.mpr h))

@[simp] theorem items?_ofSymbols (cells : List Symbol) :
    items? char? (.ofSymbols cells) = some cells :=
  items?_map cells fun c _ => char?_ofChar c

/-- **The entries of a map**, if their keys and their values are read back. -/
theorem entries?_map {κ α : Type} {key? : String → Option κ} {value? : Json → Option α}
    {spelling : κ → String} {form : α → Json} (l : List (κ × α))
    (hkey : ∀ k, key? (spelling k) = some k) (hvalue : ∀ e ∈ l, value? (form e.2) = some e.2) :
    entries? key? value? (.obj (l.map fun e => (spelling e.1, form e.2))) = some l := by
  refine mapM_eq_some_iff.mpr (List.forall₂_map_left_iff.mpr (List.forall₂_same.mpr ?_))
  intro e he
  rw [hkey, hvalue e he]
  rfl

end Json

/-! ### Records by their parts -/

/-- The names of the parts of an action. -/
def Action.partNames : List String := ["write", "step", "next_state"]

/-- The name of the part of a card. -/
def Card.partNames : List String := ["actions"]

/-- The names of the parts of a preset. -/
def Preset.partNames : List String := ["name", "cells", "head"]

/-- The names of the parts of a program. -/
def Program.partNames : List String :=
  ["name", "alphabet", "markers", "entry_state", "halt_state", "states", "input"]

/-- The parts of a record are read as those of the program. -/
def Program.Parts (p : Program) : List (Option Json) → Prop
  | [some name, some alphabet, some markers, some entry, some halt, some states, input] =>
    str? name = some p.name ∧
    (items? char? alphabet).map KeySet.ofList = some p.alphabet ∧
    (items? char? markers).map KeySet.ofList = some p.markers ∧
    Json.word32? entry = some p.entry ∧
    Json.word32? halt = some p.halt ∧
    (entries? word32OfKey? State.ofJson? states).map KeyMap.ofList = some p.states ∧
    Preset.ofJsonOrNull? input = some p.input
  | _ => False

/-- **The reader of programs** takes the parts one by one. -/
theorem Program.ofJson?_eq_some_iff {v : Json} {p : Program} :
    ofJson? v = some p ↔ ∃ parts, parts? partNames v = some parts ∧ p.Parts parts := by
  unfold ofJson?
  simp only [Option.bind_eq_bind, Option.bind_eq_some_iff]
  refine exists_congr fun parts => and_congr_right fun _ => ?_
  split
  · simp only [Parts, Option.bind_eq_some_iff, Option.map_eq_some_iff, Option.pure_def,
      Option.some.injEq]
    constructor
    · rintro ⟨name, hname, alphabet, ha, markers, hm, entry, he, halt, hh, states, hs, input, hi, rfl⟩
      exact ⟨hname, ⟨alphabet, ha, rfl⟩, ⟨markers, hm, rfl⟩, he, hh, ⟨states, hs, rfl⟩, hi⟩
    · rintro ⟨hname, ⟨alphabet, ha, hp⟩, ⟨markers, hm, hp'⟩, he, hh, ⟨states, hs, hp''⟩, hi⟩
      refine ⟨_, hname, alphabet, ha, markers, hm, _, he, _, hh, states, hs, _, hi, ?_⟩
      rw [hp, hp', hp'']
  · rename_i hne
    unfold Parts
    split
    · exact absurd rfl (hne _ _ _ _ _ _ _)
    · exact iff_of_false (Option.some_ne_none p).symm id

/-! ### The readers of the forms -/

@[simp] theorem Action.ofJson?_toJson (a : Action) : ofJson? a.toJson = some a := by
  simp [ofJson?, toJson, parts?, fields?, field?]

theorem Card.ofJson?_toJson (card : Card) : ofJson? (toJson card) = some card := by
  have hactions : entries? charOfString? Action.ofJson? (.obj (card.entries.map fun e =>
      (String.singleton e.1, e.2.toJson))) = some card.entries :=
    entries?_map card.entries charOfString?_singleton fun e _ => e.2.ofJson?_toJson
  simp [ofJson?, toJson, parts?, fields?, field?, hactions, KeyMap.ofList_entries]

theorem State.ofJson?_toJson : ∀ s : State, ofJson? s.toJson = some s
  | .halting => rfl
  | .executable card => by
    show (Card.ofJson? (Card.toJson card)).bind _ = _
    rw [Card.ofJson?_toJson]
    rfl

@[simp] theorem Preset.ofJson?_toJson (p : Preset) : ofJson? p.toJson = some p := by
  simp [ofJson?, toJson, parts?, fields?, field?, str?]

theorem Preset.ofJsonOrNull?_form : ∀ input : Option Preset,
    ofJsonOrNull? (some ((input.map toJson).getD .null)) = some input
  | none => rfl
  | some p => congrArg (Option.map some) p.ofJson?_toJson

theorem Program.ofJson?_toJson (p : Program) : ofJson? p.toJson = some p := by
  have hstates : (entries? word32OfKey? State.ofJson? (.obj (p.states.entries.map fun e =>
      (String.ofList (Text.decimal e.1.toNat), e.2.toJson)))).map KeyMap.ofList
      = some p.states := by
    rw [entries?_map p.states.entries word32OfKey?_decimal fun e _ => e.2.ofJson?_toJson]
    exact congrArg some p.states.ofList_entries
  have hset : ∀ s : KeySet Symbol,
      (items? char? (.ofSymbols s.toList)).map KeySet.ofList = some s := by
    intro s
    rw [items?_ofSymbols]
    exact congrArg some s.ofList_toList
  exact ofJson?_eq_some_iff.mpr ⟨_, rfl, rfl, hset p.alphabet, hset p.markers,
    word32?_toNat p.entry, word32?_toNat p.halt, hstates, Preset.ofJsonOrNull?_form p.input⟩

theorem RunError.ofJson?_toJson (e : RunError) : ofJson? e.toJson = some e := by
  cases e <;> simp [ofJson?, toJson, tagged, alternative?, fields?, field?]

theorem Termination.ofJson?_toJson : ∀ t : Termination, ofJson? t.toJson = some t
  | .halted => rfl
  | .budgetExhausted => rfl
  | .failed e => by
    show (RunError.ofJson? e.toJson).bind _ = _
    rw [RunError.ofJson?_toJson]
    rfl

theorem RunResult.ofJson?_toJson (r : RunResult) : ofJson? r.toJson = some r := by
  simp [ofJson?, toJson, parts?, fields?, field?, Termination.ofJson?_toJson]

/-! ### Names of fields -/

/-- Within every object of the value the fields have different names. -/
inductive Json.Proper : Json → Prop
  | null : Proper .null
  | bool (b : Bool) : Proper (.bool b)
  | int (i : Int) : Proper (.int i)
  | real (spelling : String) : Proper (.real spelling)
  | str (s : String) : Proper (.str s)
  | arr {items : List Json} (h : ∀ v ∈ items, Proper v) : Proper (.arr items)
  | obj {fields : List (String × Json)} (names : (fields.map Prod.fst).Nodup)
    (values : ∀ f ∈ fields, Proper f.2) : Proper (.obj fields)

namespace Json

theorem proper_ofSymbols (cells : List Symbol) : (ofSymbols cells).Proper := by
  refine .arr fun v hv => ?_
  obtain ⟨c, -, rfl⟩ := List.mem_map.mp hv
  exact .str _

theorem Proper.tagged {name : String} {content : Json} (h : content.Proper) :
    (Json.tagged name content).Proper :=
  .obj (List.nodup_singleton _) fun _ hf => List.mem_singleton.mp hf ▸ h

/-- The fields of a map have different names, since each name gives its key. -/
theorem proper_map {κ α : Type} [Key κ] {key? : String → Option κ} {spelling : κ → String}
    {form : α → Json} (m : KeyMap κ α) (hkey : ∀ k, key? (spelling k) = some k)
    (h : ∀ a, (form a).Proper) :
    (obj (m.entries.map fun e => (spelling e.1, form e.2))).Proper := by
  have hinj : Function.Injective spelling := fun j k hjk =>
    Option.some.inj ((hkey j).symm.trans (hjk ▸ hkey k))
  refine .obj ?_ fun f hf => ?_
  · have hnames := m.nodup_keys.map hinj
    rwa [List.map_map] at hnames ⊢
  · obtain ⟨e, -, rfl⟩ := List.mem_map.mp hf
    exact h e.2

/-- A record is proper if its parts are. -/
theorem proper_record (names : List String) {fields : List (String × Json)}
    (hnames : fields.map Prod.fst = names) (hn : names.Nodup)
    (h : fields.Forall fun f => f.2.Proper) : (obj fields).Proper :=
  .obj (hnames ▸ hn) (List.forall_iff_forall_mem.mp h)

end Json

theorem Action.proper_toJson (a : Action) : a.toJson.Proper :=
  proper_record partNames rfl (by decide) ⟨.str _, .int _, .int _⟩

theorem Card.proper_toJson (card : Card) : (toJson card).Proper :=
  proper_record partNames rfl (by decide)
    (proper_map card charOfString?_singleton Action.proper_toJson)

theorem State.proper_toJson : ∀ s : State, s.toJson.Proper
  | .halting => .str _
  | .executable card => card.proper_toJson.tagged

theorem Preset.proper_toJson (p : Preset) : p.toJson.Proper :=
  proper_record partNames rfl (by decide) ⟨.str _, proper_ofSymbols _, .int _⟩

theorem Program.proper_toJson (p : Program) : p.toJson.Proper := by
  have hinput : ((p.input.map Preset.toJson).getD .null).Proper := by
    cases p.input with
    | none => exact .null
    | some input => exact input.proper_toJson
  exact proper_record partNames rfl (by decide) ⟨.str _, proper_ofSymbols _, proper_ofSymbols _,
    .int _, .int _, proper_map p.states word32OfKey?_decimal State.proper_toJson, hinput⟩

theorem RunError.proper_toJson : ∀ e : RunError, e.toJson.Proper
  | .undefinedSymbol _ _ =>
    Proper.tagged (proper_record ["symbol", "head"] rfl (by decide) ⟨.str _, .int _⟩)
  | .unknownState _ => (Proper.int _).tagged
  | .outOfBounds _ _ =>
    Proper.tagged (proper_record ["head", "len"] rfl (by decide) ⟨.int _, .int _⟩)

theorem Termination.proper_toJson : ∀ t : Termination, t.toJson.Proper
  | .halted => .str _
  | .budgetExhausted => .str _
  | .failed e => e.proper_toJson.tagged

theorem RunResult.proper_toJson (r : RunResult) : r.toJson.Proper :=
  proper_record ["final_tape", "final_head", "final_state", "steps_taken", "termination"] rfl
    (by decide) ⟨proper_ofSymbols _, .int _, .int _, .int _, r.termination.proper_toJson⟩

end CardMachine
