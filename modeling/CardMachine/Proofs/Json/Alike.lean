import CardMachine.Proofs.Json.RoundTrip
import Mathlib.Data.List.Perm.Basic

/-! # Forms that are read alike

The form of a program says more than the program: in which order the fields of its objects come and
the members of its alphabet and its markers, how often a member is repeated, which fields there are
that are not parts, and whether a missing tape is spelled out. `Program.Alike` relates forms that
differ in such things only, at any depth, and its main result is that they are read as the same
program or are both refused (`Program.ofJson?_congr`).

Objects are compared only where no two fields have one name: of two such fields the last counts, and
which one that is depends on the order. -/

namespace CardMachine

open Json

namespace Json

/-! ### Fields by name -/

/-- **Look-up by name**, where no two fields have one name. -/
theorem field?_eq_some_iff {fields : List (String × Json)} (h : (fields.map Prod.fst).Nodup)
    {name : String} {v : Json} : field? fields name = some v ↔ (name, v) ∈ fields := by
  unfold field?
  constructor
  · intro hv
    obtain ⟨⟨n, w⟩, he, rfl⟩ := Option.map_eq_some_iff.mp hv
    obtain rfl : n = name := by simpa using List.find?_some he
    exact List.mem_reverse.mp (List.mem_of_find?_eq_some he)
  · intro hv
    cases he : fields.reverse.find? fun f => f.1 == name with
    | none => simpa using List.find?_eq_none.mp he _ (List.mem_reverse.mpr hv)
    | some f =>
      have hf : f.1 = name := by simpa using List.find?_some he
      have hmem : f ∈ fields := List.mem_reverse.mp (List.mem_of_find?_eq_some he)
      rw [List.inj_on_of_nodup_map h hmem hv hf]
      rfl

variable {R : String → Json → Json → Prop} {names : List String} {v v' : Json}

/-- Fields with the same names in the same order, whose values are related. -/
abbrev Fieldwise (R : String → Json → Json → Prop) :
    List (String × Json) → List (String × Json) → Prop :=
  List.Forall₂ fun f g => f.1 = g.1 ∧ R f.1 f.2 g.2

/-- Parts of a record, one for each name, that are both missing or related. -/
inductive PartsAlike (R : String → Json → Json → Prop) :
    List String → List (Option Json) → List (Option Json) → Prop
  | nil : PartsAlike R [] [] []
  | cons {name : String} {names : List String} {part part' : Option Json}
      {l l' : List (Option Json)} (h : Option.Rel (R name) part part')
      (others : PartsAlike R names l l') : PartsAlike R (name :: names) (part :: l) (part' :: l')

/-- Forms of a record with the given names of parts: its fields have changed places, and fields
that are not parts have come in. A part may have changed as `R` says. -/
inductive RecordAlike (names : List String) (R : String → Json → Json → Prop) : Json → Json → Prop
  | same (v : Json) : RecordAlike names R v v
  | fields {fields fields' : List (String × Json)} (kept others : List (String × Json))
      (values : Fieldwise R fields kept) (unknown : ∀ f ∈ others, f.1 ∉ names)
      (perm : fields'.Perm (kept ++ others)) (nodup : (fields'.map Prod.fst).Nodup) :
      RecordAlike names R (.obj fields) (.obj fields')
  | items {l l' : List Json} (parts : PartsAlike R names (l.map some) (l'.map some)) :
      RecordAlike names R (.arr l) (.arr l')

/-- Forms of a map: its entries have changed places. A value may have changed as `R` says. -/
inductive MapAlike (R : Json → Json → Prop) : Json → Json → Prop
  | same (v : Json) : MapAlike R v v
  | entries {fields fields' : List (String × Json)} (kept : List (String × Json))
      (values : Fieldwise (fun _ => R) fields kept) (perm : fields'.Perm kept)
      (nodup : (fields'.map Prod.fst).Nodup) : MapAlike R (.obj fields) (.obj fields')

/-- Arrays with the same members, in any order and with any repetitions. -/
def SameMembers : Json → Json → Prop
  | .arr l, .arr l' => ∀ v, v ∈ l ↔ v ∈ l'
  | _, _ => False

/-! ### Records -/

theorem exists_of_forall₂ {α β : Type} {P : α → β → Prop} : ∀ {l : List α} {l' : List β} {a : α},
    List.Forall₂ P l l' → a ∈ l → ∃ b ∈ l', P a b
  | _, _, _, .cons h hl, .head _ => ⟨_, List.mem_cons_self, h⟩
  | _, _, _, .cons _ hl, .tail _ ha => by
    obtain ⟨b, hb, h⟩ := exists_of_forall₂ hl ha
    exact ⟨b, List.mem_cons_of_mem _ hb, h⟩

theorem Fieldwise.names_eq : ∀ {l l' : List (String × Json)}, Fieldwise R l l' →
    l.map Prod.fst = l'.map Prod.fst
  | _, _, .nil => rfl
  | _, _, .cons h hl => by rw [List.map_cons, List.map_cons, h.1, names_eq hl]

/-- **A part after the rearrangement** is the related one, if there was one before. -/
theorem Fieldwise.field? {fields kept others fields' : List (String × Json)} {name : String}
    (values : Fieldwise R fields kept) (unknown : ∀ f ∈ others, f.1 ≠ name)
    (perm : fields'.Perm (kept ++ others)) (nodup : (fields'.map Prod.fst).Nodup) :
    Option.Rel (R name) (Json.field? fields name) (Json.field? fields' name) := by
  have hfields : (fields.map Prod.fst).Nodup := by
    rw [(perm.map Prod.fst).nodup_iff, List.map_append] at nodup
    rw [values.names_eq]
    exact nodup.of_append_left
  cases hv : Json.field? fields name with
  | some v =>
    obtain ⟨⟨_, w⟩, hw, rfl, hR⟩ := exists_of_forall₂ values ((field?_eq_some_iff hfields).mp hv)
    have hw' := (field?_eq_some_iff nodup).mpr (perm.mem_iff.mpr (List.mem_append_left _ hw))
    rw [hw']
    exact .some hR
  | none =>
    cases hv' : Json.field? fields' name with
    | none => exact .none
    | some w =>
      rcases List.mem_append.mp (perm.mem_iff.mp ((field?_eq_some_iff nodup).mp hv')) with hw | hw
      · obtain ⟨⟨_, v⟩, hmem, rfl, -⟩ := exists_of_forall₂ values.flip hw
        rw [(field?_eq_some_iff hfields).mpr hmem] at hv
        cases hv
      · exact absurd rfl (unknown _ hw)

theorem partsAlike_map {f g : String → Option Json} : ∀ {names : List String},
    (∀ name ∈ names, Option.Rel (R name) (f name) (g name)) →
    PartsAlike R names (names.map f) (names.map g)
  | [], _ => .nil
  | name :: _, h => .cons (h name List.mem_cons_self)
      (partsAlike_map fun n hn => h n (List.mem_cons_of_mem _ hn))

theorem PartsAlike.length_eq : ∀ {names : List String} {l l' : List (Option Json)},
    PartsAlike R names l l' → l.length = names.length ∧ l'.length = names.length
  | _, _, _, .nil => ⟨rfl, rfl⟩
  | _, _, _, .cons _ hl => ⟨congrArg (· + 1) hl.length_eq.1, congrArg (· + 1) hl.length_eq.2⟩

/-- **The parts of a rearranged record** are related one by one. -/
theorem RecordAlike.parts? (h : RecordAlike names R v v') :
    Json.parts? names v = Json.parts? names v' ∨ ∃ l l', Json.parts? names v = some l ∧
      Json.parts? names v' = some l' ∧ PartsAlike R names l l' := by
  cases h with
  | same => exact .inl rfl
  | fields kept others values unknown perm nodup =>
    refine .inr ⟨_, _, rfl, rfl, partsAlike_map fun name hname => ?_⟩
    exact values.field? (fun f hf he => unknown f hf (he ▸ hname)) perm nodup
  | items parts =>
    obtain ⟨hl, hl'⟩ := parts.length_eq
    rw [List.length_map] at hl hl'
    exact .inr ⟨_, _, if_pos hl, if_pos hl', parts⟩

theorem eq_of_rel_eq {α : Type} : ∀ {o o' : Option α}, Option.Rel Eq o o' → o = o'
  | _, _, .none => rfl
  | _, _, .some rfl => rfl

theorem PartsAlike.eq : ∀ {names : List String} {l l' : List (Option Json)},
    PartsAlike (fun _ => Eq) names l l' → l = l'
  | _, _, _, .nil => rfl
  | _, _, _, .cons h hl => by rw [eq_of_rel_eq h, hl.eq]

/-- Where no part changes, the same parts are read. -/
theorem RecordAlike.parts?_eq (h : RecordAlike names (fun _ => Eq) v v') :
    Json.parts? names v = Json.parts? names v' := by
  rcases h.parts? with h | ⟨l, l', hl, hl', h⟩
  · exact h
  · rw [hl, hl', h.eq]

/-! ### Maps and sets -/

theorem mapM_congr_forall₂ {α β : Type} {f : α → Option β} : ∀ {l l' : List α},
    List.Forall₂ (fun a b => f a = f b) l l' → l.mapM f = l'.mapM f
  | _, _, .nil => rfl
  | _, _, .cons h hl => by rw [List.mapM_cons, List.mapM_cons, h, mapM_congr_forall₂ hl]

/-- Items in another order are read as the same values in another order. -/
theorem exists_perm_of_mapM {α β : Type} {f : α → Option β} {l l' : List α} {bs : List β}
    (h : l'.Perm l) (hl : l.mapM f = some bs) : ∃ bs', l'.mapM f = some bs' ∧ bs'.Perm bs := by
  obtain ⟨bs', hbs, hp⟩ := List.perm_comp_forall₂ h (mapM_eq_some_iff.mp hl)
  exact ⟨bs', mapM_eq_some_iff.mpr hbs, hp⟩

section Map

variable {κ α : Type} {key? : String → Option κ} {value? : Json → Option α}

/-- The entry of a map that a field stands for. -/
def keyed? (key? : String → Option κ) (value? : Json → Option α) (f : String × Json) :
    Option (κ × α) := do return (← key? f.1, ← value? f.2)

theorem keyed?_eq_some_iff {f : String × Json} {e : κ × α} :
    keyed? key? value? f = some e ↔ key? f.1 = some e.1 ∧ value? f.2 = some e.2 := by
  obtain ⟨k, a⟩ := e
  simp [keyed?, Option.bind_eq_some_iff]

/-- Keys differ where their spellings differ, if a key has one spelling. -/
theorem nodup_of_mapM (hkey : ∀ s s' k, key? s = some k → key? s' = some k → s = s') :
    ∀ {fields : List (String × Json)} {l : List (κ × α)},
      List.Forall₂ (fun f e => keyed? key? value? f = some e) fields l →
      (fields.map Prod.fst).Nodup → (l.map Prod.fst).Nodup
  | _, _, .nil, _ => List.nodup_nil
  | _, _, .cons (a := f) (b := e) h hl, hn => by
    rw [List.map_cons, List.nodup_cons] at hn ⊢
    refine ⟨fun hmem => hn.1 ?_, nodup_of_mapM hkey hl hn.2⟩
    obtain ⟨e', he', hk⟩ := List.mem_map.mp hmem
    obtain ⟨g, hg, hge⟩ := exists_of_forall₂ hl.flip he'
    rw [hkey _ _ e.1 (keyed?_eq_some_iff.mp h).1 (hk ▸ (keyed?_eq_some_iff.mp hge).1)]
    exact List.mem_map_of_mem hg

variable [Key κ]

/-- **The order of its entries does not matter to a map.** -/
theorem MapAlike.entries? {R : Json → Json → Prop} (h : MapAlike R v v')
    (hkey : ∀ s s' k, key? s = some k → key? s' = some k → s = s')
    (hvalue : ∀ v v', R v v' → value? v = value? v') :
    (Json.entries? key? value? v).map KeyMap.ofList
      = (Json.entries? key? value? v').map KeyMap.ofList := by
  cases h with
  | same => rfl
  | @entries fields fields' kept values perm nodup =>
    have hkept : fields.mapM (keyed? key? value?) = kept.mapM (keyed? key? value?) := by
      refine mapM_congr_forall₂ (values.imp fun f g hfg => ?_)
      rw [keyed?, keyed?, hfg.1, hvalue _ _ hfg.2]
    have hmap : ∀ {l l' : List (String × Json)} {m : KeyMap κ α}, l'.Perm l →
        (l'.map Prod.fst).Nodup → (l.mapM (keyed? key? value?)).map KeyMap.ofList = some m →
        (l'.mapM (keyed? key? value?)).map KeyMap.ofList = some m := by
      intro l l' m hp hn hm
      obtain ⟨bs, hbs, rfl⟩ := Option.map_eq_some_iff.mp hm
      obtain ⟨bs', hbs', hbp⟩ := exists_perm_of_mapM hp hbs
      rw [hbs', Option.map_some,
        KeyMap.ofList_congr hbp (nodup_of_mapM hkey (mapM_eq_some_iff.mp hbs') hn)]
    show (fields.mapM (keyed? key? value?)).map KeyMap.ofList
      = (fields'.mapM (keyed? key? value?)).map KeyMap.ofList
    rw [hkept]
    exact Option.ext fun m => ⟨hmap perm nodup,
      hmap perm.symm ((perm.map Prod.fst).nodup_iff.mp nodup)⟩

end Map

/-- The values of the items are what its members are read as. -/
theorem mem_of_mapM {α β : Type} {f : α → Option β} {l : List α} {bs : List β}
    (h : l.mapM f = some bs) {b : β} : b ∈ bs ↔ ∃ a ∈ l, f a = some b := by
  have hl := mapM_eq_some_iff.mp h
  constructor
  · exact fun hb => exists_of_forall₂ hl.flip hb
  · rintro ⟨a, ha, hab⟩
    obtain ⟨b', hb', hab'⟩ := exists_of_forall₂ hl ha
    rwa [Option.some.inj (hab.symm.trans hab')]

/-- Items of which each can be read can be read together. -/
theorem exists_mapM {α β : Type} {f : α → Option β} : ∀ {l : List α},
    (∀ a ∈ l, ∃ b, f a = some b) → ∃ bs, l.mapM f = some bs
  | [], _ => ⟨[], rfl⟩
  | a :: l, h => by
    obtain ⟨b, hb⟩ := h a List.mem_cons_self
    obtain ⟨bs, hbs⟩ := exists_mapM fun c hc => h c (List.mem_cons_of_mem _ hc)
    exact ⟨b :: bs, mapM_eq_some_iff.mpr (.cons hb (mapM_eq_some_iff.mp hbs))⟩

/-- **The order and the repetitions of its members do not matter to a set.** -/
theorem SameMembers.items? {κ : Type} [Key κ] {item? : Json → Option κ} :
    ∀ {v v' : Json}, SameMembers v v' →
      (Json.items? item? v).map KeySet.ofList = (Json.items? item? v').map KeySet.ofList
  | .arr l, .arr l', h => by
    have hset : ∀ {l l' : List Json} {s : KeySet κ}, (∀ v, v ∈ l ↔ v ∈ l') →
        (l.mapM item?).map KeySet.ofList = some s →
        (l'.mapM item?).map KeySet.ofList = some s := by
      intro l l' s h hs
      obtain ⟨bs, hbs, rfl⟩ := Option.map_eq_some_iff.mp hs
      obtain ⟨bs', hbs'⟩ : ∃ bs', l'.mapM item? = some bs' := by
        refine exists_mapM fun a ha => ?_
        obtain ⟨b, -, hb⟩ := exists_of_forall₂ (mapM_eq_some_iff.mp hbs) ((h a).mpr ha)
        exact ⟨b, hb⟩
      rw [hbs', Option.map_some, KeySet.ofList_congr fun k => ?_]
      rw [mem_of_mapM hbs, mem_of_mapM hbs']
      exact exists_congr fun a => and_congr_left fun _ => (h a).symm
    exact Option.ext fun s => ⟨hset h, hset fun v => (h v).symm⟩

end Json

/-! ### Programs -/

/-- Forms of an action: its fields have changed places, and others have come in. -/
abbrev Action.Alike : Json → Json → Prop := RecordAlike partNames fun _ => Eq

/-- Forms of a card: its fields or its actions have changed places, and other fields have come in,
also within its actions. -/
abbrev Card.Alike : Json → Json → Prop :=
  RecordAlike partNames fun _ => MapAlike Action.Alike

/-- Forms of a state: of the halting state there is one, of others the card may have changed. -/
inductive State.Alike : Json → Json → Prop
  | same (v : Json) : Alike v v
  | executable {card card' : Json} (h : Card.Alike card card') :
      Alike (tagged "Executable" card) (tagged "Executable" card')

/-- Forms of a preset: its fields have changed places, and others have come in. -/
abbrev Preset.Alike : Json → Json → Prop := RecordAlike partNames fun _ => Eq

/-- Forms of the part of a program that has the given name: the members of its alphabet and its
markers may have changed places or be repeated, and the rest is as for the parts of the part. -/
def Program.PartAlike (name : String) (v v' : Json) : Prop :=
  v = v' ∨ (name = "alphabet" ∨ name = "markers") ∧ SameMembers v v' ∨
    name = "states" ∧ MapAlike State.Alike v v' ∨ name = "input" ∧ Preset.Alike v v'

/-- Forms of a program: its parts may have changed, its fields may have changed places, others may
have come in, and a tape that is null may have been left out. -/
inductive Program.Alike : Json → Json → Prop
  | record {v v' : Json} (h : RecordAlike partNames PartAlike v v') : Alike v v'
  | noInput {fields fields' : List (String × Json)}
      (perm : fields.Perm (("input", .null) :: fields')) (nodup : (fields.map Prod.fst).Nodup) :
      Alike (.obj fields) (.obj fields')
  | symm {v v' : Json} (h : Alike v v') : Alike v' v
  | trans {v₁ v₂ v₃ : Json} (h : Alike v₁ v₂) (h' : Alike v₂ v₃) : Alike v₁ v₃

theorem Action.ofJson?_congr {v v' : Json} (h : Alike v v') : ofJson? v = ofJson? v' := by
  show (parts? partNames v).bind _ = (parts? partNames v').bind _
  rw [h.parts?_eq]

theorem Card.ofJson?_congr {v v' : Json} (h : Alike v v') : ofJson? v = ofJson? v' := by
  show (parts? partNames v).bind _ = (parts? partNames v').bind _
  rcases h.parts? with h | ⟨_, _, hl, hl', _ | ⟨hactions, _ | _⟩⟩
  · rw [h]
  · rw [hl, hl']
    cases hactions with
    | none => rfl
    | some hactions =>
      have hmap := hactions.entries? (fun s s' c hs hs' => (charOfString?_eq_some_iff.mp hs).trans
        (charOfString?_eq_some_iff.mp hs').symm) fun _ _ => Action.ofJson?_congr
      rw [Option.map_eq_bind, Option.map_eq_bind] at hmap
      exact hmap

theorem State.ofJson?_congr {v v' : Json} (h : Alike v v') : ofJson? v = ofJson? v' := by
  cases h with
  | same => rfl
  | executable h =>
    show (Card.ofJson? _).bind _ = (Card.ofJson? _).bind _
    rw [Card.ofJson?_congr h]

theorem Preset.ofJson?_congr {v v' : Json} (h : Alike v v') : ofJson? v = ofJson? v' := by
  show (parts? partNames v).bind _ = (parts? partNames v').bind _
  rw [h.parts?_eq]

namespace Program

variable {name : String} {v v' : Json} {p : Program}

theorem PartAlike.eq (h : PartAlike name v v')
    (hn : name ∉ ["alphabet", "markers", "states", "input"]) : v = v' := by
  rcases h with h | ⟨rfl | rfl, -⟩ | ⟨rfl, -⟩ | ⟨rfl, -⟩
  · exact h
  all_goals exact absurd (by decide) hn

theorem PartAlike.symbols (h : PartAlike name v v') (hn : name = "alphabet" ∨ name = "markers") :
    (items? char? v).map KeySet.ofList = (items? char? v').map KeySet.ofList := by
  rcases h with rfl | ⟨-, h⟩ | ⟨rfl, -⟩ | ⟨rfl, -⟩
  · rfl
  · exact h.items?
  all_goals exact absurd hn (by decide)

theorem PartAlike.states (h : PartAlike "states" v v') :
    (entries? word32OfKey? State.ofJson? v).map KeyMap.ofList
      = (entries? word32OfKey? State.ofJson? v').map KeyMap.ofList := by
  rcases h with rfl | ⟨hn, -⟩ | ⟨-, h⟩ | ⟨hn, -⟩
  · rfl
  · exact absurd hn (by decide)
  · exact h.entries? (fun s s' w hs hs' => (word32OfKey?_eq_some_iff.mp hs).trans
      (word32OfKey?_eq_some_iff.mp hs').symm) fun _ _ => State.ofJson?_congr
  · exact absurd hn (by decide)

theorem PartAlike.input (h : PartAlike "input" v v') :
    Preset.ofJsonOrNull? (some v) = Preset.ofJsonOrNull? (some v') := by
  rcases h with rfl | ⟨hn, -⟩ | ⟨hn, -⟩ | ⟨-, h⟩
  · rfl
  · exact absurd hn (by decide)
  · exact absurd hn (by decide)
  · have hread := congrArg (Option.map some) (Preset.ofJson?_congr h)
    -- only a form that stays the same can be null
    cases h with
    | same => rfl
    | fields => exact hread
    | items => exact hread

/-- Parts of which each is read the same are read as the parts of the same program. -/
theorem parts_congr {l l' : List (Option Json)} (h : PartsAlike PartAlike partNames l l') :
    p.Parts l ↔ p.Parts l' := by
  obtain _ | ⟨hname, _ | ⟨halphabet, _ | ⟨hmarkers, _ | ⟨hentry, _ | ⟨hhalt, _ | ⟨hstates, _ |
    ⟨hinput, _ | _⟩⟩⟩⟩⟩⟩⟩ := h
  -- only the last part may be missing
  cases hname with | none => exact Iff.rfl | some hname =>
  cases halphabet with | none => exact Iff.rfl | some halphabet =>
  cases hmarkers with | none => exact Iff.rfl | some hmarkers =>
  cases hentry with | none => exact Iff.rfl | some hentry =>
  cases hhalt with | none => exact Iff.rfl | some hhalt =>
  cases hstates with | none => exact Iff.rfl | some hstates =>
  obtain rfl := hname.eq (by decide)
  obtain rfl := hentry.eq (by decide)
  obtain rfl := hhalt.eq (by decide)
  unfold Parts
  dsimp only
  rw [halphabet.symbols (.inl rfl), hmarkers.symbols (.inr rfl), hstates.states]
  cases hinput with
  | none => exact Iff.rfl
  | some hinput => rw [hinput.input]

/-- The tape may be replaced by another part that is read the same. -/
theorem Parts.withInput {name alphabet markers entry halt states input input' : Option Json}
    (hp : p.Parts [name, alphabet, markers, entry, halt, states, input])
    (h : Preset.ofJsonOrNull? input = Preset.ofJsonOrNull? input') :
    p.Parts [name, alphabet, markers, entry, halt, states, input'] := by
  unfold Parts at hp
  split at hp
  · rename_i hparts
    cases hparts
    rwa [h] at hp
  · exact hp.elim

/-- A tape that is null is as good as none. -/
theorem parts_noInput {fields fields' : List (String × Json)}
    (perm : fields.Perm (("input", .null) :: fields')) (nodup : (fields.map Prod.fst).Nodup) :
    p.Parts (partNames.map (field? fields)) ↔ p.Parts (partNames.map (field? fields')) := by
  have hnull : field? fields "input" = some .null :=
    (field?_eq_some_iff nodup).mpr (perm.mem_iff.mpr List.mem_cons_self)
  have hsame : ∀ name ≠ "input", field? fields name = field? fields' name := by
    intro name hname
    have hkept : Fieldwise (fun _ => Eq) fields' fields' :=
      List.forall₂_same.mpr fun _ _ => ⟨rfl, rfl⟩
    have hperm : fields.Perm (fields' ++ [("input", null)]) :=
      perm.trans (List.perm_append_singleton _ _).symm
    refine (eq_of_rel_eq (hkept.field? (fun f hf => ?_) hperm nodup)).symm
    rw [List.mem_singleton.mp hf]
    exact hname.symm
  have hnone : field? fields' "input" = none := by
    rw [(perm.map Prod.fst).nodup_iff, List.map_cons] at nodup
    obtain ⟨hn, hnodup⟩ := List.nodup_cons.mp nodup
    refine Option.eq_none_iff_forall_ne_some.mpr fun v hv => hn ?_
    exact List.mem_map.mpr ⟨_, (field?_eq_some_iff hnodup).mp hv, rfl⟩
  simp only [partNames, List.map_cons, List.map_nil]
  rw [hsame "name" (by decide), hsame "alphabet" (by decide), hsame "markers" (by decide),
    hsame "entry_state" (by decide), hsame "halt_state" (by decide), hsame "states" (by decide),
    hnull, hnone]
  exact ⟨fun h => h.withInput rfl, fun h => h.withInput rfl⟩

/-- **Forms that are alike** are read as the same program, or both are refused. -/
theorem ofJson?_congr (h : Alike v v') : ofJson? v = ofJson? v' := by
  induction h with
  | record h =>
    rcases h.parts? with h | ⟨l, l', hl, hl', h⟩
    · show (parts? partNames _).bind _ = (parts? partNames _).bind _
      rw [h]
    · refine Option.ext fun p => ?_
      rw [ofJson?_eq_some_iff, ofJson?_eq_some_iff, hl, hl']
      simp only [Option.some.injEq, exists_eq_left', parts_congr h]
  | noInput perm nodup =>
    refine Option.ext fun p => ?_
    rw [ofJson?_eq_some_iff, ofJson?_eq_some_iff]
    show (∃ l, some _ = some l ∧ _) ↔ ∃ l, some _ = some l ∧ _
    simp only [Option.some.injEq, exists_eq_left', parts_noInput perm nodup]
  | symm _ ih => exact ih.symm
  | trans _ _ ih ih' => exact ih.trans ih'

/-- **Forms are read back**: that of a program, of a result and of a termination each give the value
they are the form of. Forms of a program that are alike are read as the same program, or both are
refused. -/
theorem ofJson?_of_alike :
    (∀ p : Program, p.toJson.Proper ∧ ofJson? p.toJson = some p) ∧
    (∀ r : RunResult, r.toJson.Proper ∧ RunResult.ofJson? r.toJson = some r) ∧
    (∀ t : Termination, t.toJson.Proper ∧ Termination.ofJson? t.toJson = some t) ∧
    ∀ v v' : Json, Alike v v' → ofJson? v = ofJson? v' :=
  ⟨fun p => ⟨p.proper_toJson, p.ofJson?_toJson⟩, fun r => ⟨r.proper_toJson, r.ofJson?_toJson⟩,
    fun t => ⟨t.proper_toJson, t.ofJson?_toJson⟩, fun _ _ => ofJson?_congr⟩

/-- A program that exchanges two symbols. -/
def flipping : Program where
  name := "Flipping"
  alphabet := KeySet.ofList ['a', 'b']
  markers := ∅
  entry := 1
  halt := 0
  states := KeyMap.ofList [(0, .halting),
    (1, .executable (KeyMap.ofList [('a', ⟨'b', 1, 1⟩), ('b', ⟨'a', -1, 1⟩)]))]
  input := none

/-- The form of an action with its fields from the last to the first. -/
def scatteredAction (a : Action) : Json :=
  .obj [("next_state", .int a.next.toNat), ("step", .int a.step.toInt), ("write", ofChar a.write)]

/-- The form of the actions of `flipping` from the last to the first. -/
def scatteredActions : Json :=
  .obj [("b", scatteredAction ⟨'a', -1, 1⟩), ("a", scatteredAction ⟨'b', 1, 1⟩)]

/-- The form of the states of `flipping` from the last to the first, with a note on the card. -/
def scatteredStates : Json :=
  .obj [("1", tagged "Executable" (.obj [("note", .null), ("actions", scatteredActions)])),
    ("0", .str "Halting")]

/-- A form of `flipping` with a note and without a tape, its fields and its states from the last to
the first and a symbol repeated. -/
def scattered : Json :=
  .obj [("note", .str "input"),
    ("states", scatteredStates), ("halt_state", .int 0), ("entry_state", .int 1),
    ("markers", .ofSymbols []),
    ("alphabet", .ofSymbols ['b', 'a', 'b']), ("name", .str "Flipping")]

theorem alike_scattered : Alike flipping.toJson scattered := by
  let actions : Json := .obj [("a", Action.toJson ⟨'b', 1, 1⟩), ("b", Action.toJson ⟨'a', -1, 1⟩)]
  let states : Json :=
    .obj [("0", .str "Halting"), ("1", tagged "Executable" (.obj [("actions", actions)]))]
  have haction : ∀ a : Action, Action.Alike a.toJson (scatteredAction a) := fun a =>
    .fields [_, _, _] [] (List.forall₂_same.mpr fun _ _ => ⟨rfl, rfl⟩) (by simp)
      (List.reverse_perm [_, _, _]) (show ["next_state", "step", "write"].Nodup by decide)
  have hactions : MapAlike Action.Alike actions scatteredActions :=
    .entries [("a", scatteredAction ⟨'b', 1, 1⟩), ("b", scatteredAction ⟨'a', -1, 1⟩)]
      (.cons ⟨rfl, haction _⟩ (.cons ⟨rfl, haction _⟩ .nil)) (.swap _ _ _) (by decide)
  have hcard : Card.Alike (.obj [("actions", actions)])
      (.obj [("note", .null), ("actions", scatteredActions)]) :=
    .fields [("actions", scatteredActions)] [("note", .null)] (.cons ⟨rfl, hactions⟩ .nil)
      (by decide) (.swap _ _ _) (by decide)
  have hstates : MapAlike State.Alike states scatteredStates :=
    .entries [("0", .str "Halting"),
        ("1", tagged "Executable" (.obj [("note", .null), ("actions", scatteredActions)]))]
      (.cons ⟨rfl, .same _⟩ (.cons ⟨rfl, .executable hcard⟩ .nil)) (.swap _ _ _) (by decide)
  have halphabet : SameMembers (.ofSymbols ['a', 'b']) (.ofSymbols ['b', 'a', 'b']) := by
    intro v
    show v ∈ [_, _] ↔ v ∈ [_, _, _]
    grind
  have hfields : RecordAlike partNames PartAlike
      (.obj [("name", .str "Flipping"), ("alphabet", .ofSymbols ['a', 'b']),
        ("markers", .ofSymbols []), ("entry_state", .int 1), ("halt_state", .int 0),
        ("states", states)]) scattered := by
    refine .fields [("name", .str "Flipping"), ("alphabet", .ofSymbols ['b', 'a', 'b']),
      ("markers", .ofSymbols []), ("entry_state", .int 1), ("halt_state", .int 0),
      ("states", scatteredStates)] [("note", .str "input")]
      (.cons ⟨rfl, .inl rfl⟩ (.cons ⟨rfl, ?_⟩ (.cons ⟨rfl, .inl rfl⟩ (.cons ⟨rfl, .inl rfl⟩
        (.cons ⟨rfl, .inl rfl⟩ (.cons ⟨rfl, ?_⟩ .nil))))))
      (by decide) (List.reverse_perm [_, _, _, _, _, _, _]) (by decide)
    · exact .inr (.inl ⟨.inl rfl, halphabet⟩)
    · exact .inr (.inr (.inl ⟨rfl, hstates⟩))
  exact .trans (.noInput (List.perm_append_singleton _ [_, _, _, _, _, _]) (by decide))
    (.record hfields)

theorem ofJson?_scattered :
    Alike flipping.toJson scattered ∧ ofJson? scattered = some flipping :=
  ⟨alike_scattered, (ofJson?_of_alike.2.2.2 _ _ alike_scattered).symm.trans
    (ofJson?_of_alike.1 flipping).2⟩

end Program

end CardMachine
