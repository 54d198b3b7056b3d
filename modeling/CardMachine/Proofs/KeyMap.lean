import CardMachine.KeyMap

/-! # Look-up in maps with ordered keys

A key of a map has one entry, so `get?`, `contains` and membership in the list of entries say the
same. A map is the result of inserting its own entries one after the other, from either end of the
list: a key above all others goes to the end (`place_of_forall_lt`), one below all others to the
front (`place_of_forall_gt`). -/

namespace CardMachine

namespace KeyMap

variable {κ α β : Type} [Key κ]

theorem rank_inj {j k : κ} : Key.rank j = Key.rank k ↔ j = k :=
  ⟨Key.rank_injective j k, congrArg Key.rank⟩

/-! ### Look-up -/

theorem value_unique {k : κ} {a b : α} : ∀ {l : List (κ × α)}, Increasing l →
    (k, a) ∈ l → (k, b) ∈ l → a = b
  | e :: l, h, ha, hb => by
    obtain ⟨hlt, hl⟩ := List.pairwise_cons.mp h
    rcases List.mem_cons.mp ha with rfl | ha'
    · rcases List.mem_cons.mp hb with hb' | hb'
      · exact (Prod.mk.inj hb').2.symm
      · exact absurd (hlt _ hb') (Nat.lt_irrefl _)
    · rcases List.mem_cons.mp hb with rfl | hb'
      · exact absurd (hlt _ ha') (Nat.lt_irrefl _)
      · exact value_unique hl ha' hb'

/-- Two entries with one key are the same entry. -/
theorem entry_unique {m : KeyMap κ α} {k : κ} {a b : α} (ha : (k, a) ∈ m.entries)
    (hb : (k, b) ∈ m.entries) : a = b := value_unique m.increasing ha hb

/-- **Look-up**: the value at a key is the one in its entry. -/
theorem get?_eq_some_iff {m : KeyMap κ α} {k : κ} {a : α} :
    m.get? k = some a ↔ (k, a) ∈ m.entries := by
  unfold get?
  constructor
  · intro h
    obtain ⟨⟨j, b⟩, he, rfl⟩ := Option.map_eq_some_iff.mp h
    have hj : j = k := rank_inj.mp (by simpa using List.find?_some he)
    subst hj
    exact List.mem_of_find?_eq_some he
  · intro h
    cases he : m.entries.find? fun e => Key.rank e.1 == Key.rank k with
    | none => simpa using List.find?_eq_none.mp he _ h
    | some e =>
      obtain ⟨j, b⟩ := e
      have hj : j = k := rank_inj.mp (by simpa using List.find?_some he)
      subst hj
      rw [entry_unique (List.mem_of_find?_eq_some he) h]
      rfl

theorem contains_iff {m : KeyMap κ α} {k : κ} :
    m.contains k = true ↔ ∃ a, (k, a) ∈ m.entries := by
  simp only [contains, List.any_eq_true, beq_iff_eq, rank_inj]
  constructor
  · rintro ⟨⟨j, a⟩, he, rfl⟩; exact ⟨a, he⟩
  · rintro ⟨a, h⟩; exact ⟨_, h, rfl⟩

theorem contains_iff_mem_keys {m : KeyMap κ α} {k : κ} : m.contains k = true ↔ k ∈ m.keys := by
  rw [contains_iff, keys, List.mem_map]
  constructor
  · rintro ⟨a, h⟩; exact ⟨_, h, rfl⟩
  · rintro ⟨⟨j, a⟩, h, rfl⟩; exact ⟨a, h⟩

theorem isSome_get?_of_contains {m : KeyMap κ α} {k : κ} (h : m.contains k = true) :
    ∃ a, m.get? k = some a := by
  obtain ⟨a, ha⟩ := contains_iff.mp h
  exact ⟨a, get?_eq_some_iff.mpr ha⟩

theorem isEmpty_iff {m : KeyMap κ α} : m.isEmpty = true ↔ m.entries = [] := List.isEmpty_iff

/-! ### Insertion -/

theorem mem_place_self {k : κ} {a : α} : ∀ {l : List (κ × α)}, (k, a) ∈ place k a l
  | [] => by simp [place]
  | x :: l => by
    unfold place
    split
    · simp
    · split
      · simp
      · exact List.mem_cons_of_mem _ mem_place_self

theorem mem_place_of_mem {k : κ} {a : α} {e : κ × α} (hne : e.1 ≠ k) :
    ∀ {l : List (κ × α)}, e ∈ l → e ∈ place k a l
  | x :: l, h => by
    unfold place
    split
    · exact List.mem_cons_of_mem _ h
    · split
      · rename_i hk
        rcases List.mem_cons.mp h with rfl | h
        · exact absurd (rank_inj.mp hk).symm hne
        · exact List.mem_cons_of_mem _ h
      · rcases List.mem_cons.mp h with rfl | h
        · exact List.mem_cons_self
        · exact List.mem_cons_of_mem _ (mem_place_of_mem hne h)

/-- The keys after an insertion are the new one and the old ones. -/
theorem contains_insert {m : KeyMap κ α} {j k : κ} {a : α} :
    (m.insert k a).contains j = true ↔ j = k ∨ m.contains j = true := by
  rw [contains_iff, contains_iff]
  show (∃ b, (j, b) ∈ place k a m.entries) ↔ _
  constructor
  · rintro ⟨b, h⟩
    rcases mem_of_mem_place h with h | h
    · exact .inl (Prod.mk.inj h).1
    · exact .inr ⟨b, h⟩
  · rintro (rfl | ⟨b, h⟩)
    · exact ⟨a, mem_place_self⟩
    · by_cases hj : j = k
      · subst hj; exact ⟨a, mem_place_self⟩
      · exact ⟨b, mem_place_of_mem hj h⟩

/-- A new key adds an entry to the others. -/
theorem perm_place {k : κ} {a : α} : ∀ {l : List (κ × α)}, (∀ b, (k, b) ∉ l) →
    (place k a l).Perm ((k, a) :: l)
  | [], _ => .refl _
  | x :: l, h => by
    unfold place
    split
    · exact .refl _
    · split
      · rename_i hk
        exact absurd (rank_inj.mp hk ▸ List.mem_cons_self) (h x.2)
      · have hl := perm_place (a := a) fun b hb => h b (List.mem_cons_of_mem x hb)
        exact (hl.cons x).trans (.swap _ _ _)

theorem perm_insert {m : KeyMap κ α} {k : κ} {a : α} (h : m.contains k = false) :
    (m.insert k a).entries.Perm ((k, a) :: m.entries) := by
  refine perm_place fun b hb => ?_
  rw [contains_iff.mpr ⟨b, hb⟩] at h
  cases h

/-- **The map of a list** whose keys differ has the entries of the list. -/
theorem perm_ofList {l : List (κ × α)} (h : (l.map Prod.fst).Nodup) :
    (ofList l).entries.Perm l := by
  suffices hm : ∀ (l : List (κ × α)) (m : KeyMap κ α), ((m.entries ++ l).map Prod.fst).Nodup →
      (l.foldl (fun m e => m.insert e.1 e.2) m).entries.Perm (m.entries ++ l) from
    hm l empty h
  intro l
  induction l with
  | nil =>
    intro m _
    rw [List.append_nil]
    exact .refl _
  | cons e l ih =>
    intro m hm
    have hmiddle : (m.entries ++ e :: l).Perm (e :: m.entries ++ l) := List.perm_middle
    have hnew : m.contains e.1 = false := by
      rw [Bool.eq_false_iff, ne_eq, contains_iff_mem_keys]
      rw [(hmiddle.map Prod.fst).nodup_iff] at hm
      intro he
      simp only [List.cons_append, List.map_cons, List.map_append, List.nodup_cons] at hm
      exact hm.1 (List.mem_append_left _ he)
    have hinsert := (perm_insert (a := e.2) hnew).append_right l
    refine (ih _ ?_).trans (hinsert.trans hmiddle.symm)
    rwa [((hinsert.trans hmiddle.symm).map Prod.fst).nodup_iff]

/-- A key above all others goes to the end. -/
theorem place_of_forall_lt {k : κ} {a : α} : ∀ {l : List (κ × α)},
    (∀ e ∈ l, Key.rank e.1 < Key.rank k) → place k a l = l ++ [(k, a)]
  | [], _ => rfl
  | x :: l, h => by
    have hx := h x List.mem_cons_self
    rw [place, if_neg (by omega), if_neg (by omega),
      place_of_forall_lt fun e he => h e (List.mem_cons_of_mem _ he)]
    rfl

/-- A key below all others goes to the front. -/
theorem place_of_forall_gt {k : κ} {a : α} : ∀ {l : List (κ × α)},
    (∀ e ∈ l, Key.rank k < Key.rank e.1) → place k a l = (k, a) :: l
  | [], _ => rfl
  | x :: l, h => by rw [place, if_pos (h x List.mem_cons_self)]

/-! ### The list of the entries -/

/-- Maps with the same entries in any order are equal. -/
theorem eq_of_perm {m n : KeyMap κ α} (h : m.entries.Perm n.entries) : m = n :=
  ext (h.eq_of_pairwise (fun _ _ _ _ hlt hgt => absurd hlt (Nat.lt_asymm hgt)) m.increasing
    n.increasing)

theorem nodup_keys (m : KeyMap κ α) : (m.entries.map Prod.fst).Nodup :=
  List.pairwise_map.mpr (m.increasing.imp fun hlt he => Nat.ne_of_lt hlt (congrArg Key.rank he))

/-- **A map is the map of its own entries.** -/
theorem ofList_entries (m : KeyMap κ α) : ofList m.entries = m :=
  eq_of_perm (perm_ofList m.nodup_keys)

/-- The order of entries whose keys differ does not matter. -/
theorem ofList_congr {l l' : List (κ × α)} (h : l.Perm l') (hn : (l.map Prod.fst).Nodup) :
    ofList l = ofList l' :=
  eq_of_perm ((perm_ofList hn).trans
    (h.trans (perm_ofList ((h.map Prod.fst).nodup_iff.mp hn)).symm))

/-! ### Other keys -/

/-- The map with other keys and values, in the order of the new keys. -/
def mapKeys {κ' : Type} [Key κ'] (f : κ → κ') (g : α → β) (m : KeyMap κ α) : KeyMap κ' β :=
  ofList (m.entries.map fun e => (f e.1, g e.2))

/-- **Look-up under a new key**: keys that stay apart have the values they had. -/
theorem get?_mapKeys {κ' : Type} [Key κ'] {f : κ → κ'} (hf : ∀ a b, f a = f b → a = b) (g : α → β)
    (m : KeyMap κ α) (k : κ) : (m.mapKeys f g).get? (f k) = (m.get? k).map g := by
  have hkeys : ((m.entries.map fun e => (f e.1, g e.2)).map Prod.fst).Nodup := by
    rw [List.map_map, List.Nodup, List.pairwise_map]
    refine m.increasing.imp fun {a b} hlt he => ?_
    have hab : a.1 = b.1 := hf _ _ he
    rw [hab] at hlt
    exact Nat.lt_irrefl _ hlt
  refine Option.ext fun b => ?_
  rw [get?_eq_some_iff, mapKeys, (perm_ofList hkeys).mem_iff, List.mem_map, Option.map_eq_some_iff]
  simp only [get?_eq_some_iff]
  constructor
  · rintro ⟨⟨j, a⟩, he, heq⟩
    obtain ⟨hj, rfl⟩ := Prod.mk.inj heq
    obtain rfl := hf j k hj
    exact ⟨a, he, rfl⟩
  · rintro ⟨a, he, rfl⟩
    exact ⟨(k, a), he, rfl⟩

end KeyMap

namespace KeySet

variable {κ : Type} [Key κ]

theorem contains_add {s : KeySet κ} {j k : κ} :
    (add s k).contains j = true ↔ j = k ∨ s.contains j = true := KeyMap.contains_insert

/-- **The set of a list** has the members of the list. -/
theorem contains_ofList {k : κ} : ∀ {l : List κ}, (ofList l).contains k = true ↔ k ∈ l
  | [] => by simp [ofList, KeyMap.contains, KeyMap.empty]
  | j :: l => by
    rw [List.mem_cons, ← contains_ofList (l := l)]
    exact contains_add

theorem mem_toList_ofList {k : κ} {l : List κ} : k ∈ (ofList l).toList ↔ k ∈ l := by
  rw [← KeyMap.contains_iff_mem_keys, contains_ofList]

theorem toList_ne_nil {s : KeySet κ} (h : s.isEmpty = false) : s.toList ≠ [] := by
  intro he
  have : s.isEmpty = true := KeyMap.isEmpty_iff.mpr (List.map_eq_nil_iff.mp he)
  rw [h] at this
  cases this

/-- **A set is the set of its own list.** -/
theorem ofList_toList (s : KeySet κ) : ofList s.toList = s := by
  suffices h : ∀ l : List (κ × Unit), Increasing l → (ofList (l.map Prod.fst)).entries = l from
    KeyMap.ext (h s.entries s.increasing)
  intro l
  induction l with
  | nil => intro _; rfl
  | cons e l ih =>
    intro h
    obtain ⟨hlt, hl⟩ := List.pairwise_cons.mp h
    show KeyMap.place e.1 () (ofList (l.map Prod.fst)).entries = _
    rw [ih hl, KeyMap.place_of_forall_gt hlt]

/-- The order and the repetitions in a list do not matter to the set of its members. -/
theorem ofList_congr {l l' : List κ} (h : ∀ k, k ∈ l ↔ k ∈ l') : ofList l = ofList l' := by
  have hnodup : ∀ s : KeySet κ, s.entries.Nodup := by
    intro s
    refine s.increasing.imp fun {a b} hlt => ?_
    rintro rfl
    exact Nat.lt_irrefl _ hlt
  refine KeyMap.eq_of_perm ((List.perm_ext_iff_of_nodup (hnodup _) (hnodup _)).mpr ?_)
  rintro ⟨k, ⟨⟩⟩
  have hmem : ∀ s : KeySet κ, (k, ()) ∈ s.entries ↔ s.contains k = true := by
    intro s
    refine ⟨fun hk => KeyMap.contains_iff.mpr ⟨(), hk⟩, fun hk => ?_⟩
    obtain ⟨⟨⟩, hk⟩ := KeyMap.contains_iff.mp hk
    exact hk
  rw [hmem, hmem, contains_ofList, contains_ofList, h]

end KeySet

end CardMachine
