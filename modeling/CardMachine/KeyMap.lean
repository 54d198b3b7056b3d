/-! # Maps and sets with ordered keys

A `KeyMap κ α` is the list of its entries in strictly increasing order of their keys, with the
proof of that order. So a map has one representation: two maps with the same entries are equal, and
equality of programs, which are built from such maps, is equality of what they say.

The order comes from a `rank` of the keys in the natural numbers. A set is a map to `Unit`. -/

namespace CardMachine

/-- Keys are ordered by a number that tells them apart. -/
class Key (κ : Type) where
  rank : κ → Nat
  rank_injective : ∀ a b, rank a = rank b → a = b

/-- Characters are ordered by code point. -/
instance : Key Char where
  rank := Char.toNat
  rank_injective _ _ h := Char.ext (UInt32.toNat_inj.mp h)

/-- Words are ordered by value. -/
instance : Key UInt32 where
  rank := UInt32.toNat
  rank_injective _ _ h := UInt32.toNat_inj.mp h

/-- Entries whose keys grow strictly. -/
abbrev Increasing {κ α : Type} [Key κ] (l : List (κ × α)) : Prop :=
  l.Pairwise fun a b => Key.rank a.1 < Key.rank b.1

/-- A finite map, as its list of entries in increasing order of the keys. -/
structure KeyMap (κ α : Type) [Key κ] where
  entries : List (κ × α)
  increasing : Increasing entries

namespace KeyMap

variable {κ α β : Type} [Key κ]

/-- A map is determined by its entries. -/
@[ext] theorem ext {m n : KeyMap κ α} (h : m.entries = n.entries) : m = n := by
  cases m; cases n; cases h; rfl

instance [DecidableEq κ] [DecidableEq α] : DecidableEq (KeyMap κ α) := fun m n =>
  decidable_of_iff (m.entries = n.entries) ⟨ext, congrArg entries⟩

/-- The map with no entry. -/
def empty : KeyMap κ α := ⟨[], .nil⟩

instance : EmptyCollection (KeyMap κ α) := ⟨empty⟩
instance : Inhabited (KeyMap κ α) := ⟨empty⟩

/-! ### Insertion -/

/-- Puts an entry at its place; an entry of the same key is replaced. -/
def place (k : κ) (a : α) : List (κ × α) → List (κ × α)
  | [] => [(k, a)]
  | e :: l =>
    if Key.rank k < Key.rank e.1 then (k, a) :: e :: l
    else if Key.rank k = Key.rank e.1 then (k, a) :: l
    else e :: place k a l

/-- The entries after `place` are the new one and old ones. -/
theorem mem_of_mem_place {k : κ} {a : α} {e : κ × α} :
    ∀ {l : List (κ × α)}, e ∈ place k a l → e = (k, a) ∨ e ∈ l
  | [], h => by simpa [place] using h
  | x :: l, h => by
    unfold place at h
    split at h
    · simpa using h
    · split at h
      · rcases List.mem_cons.mp h with h | h
        · exact .inl h
        · exact .inr (List.mem_cons_of_mem _ h)
      · rcases List.mem_cons.mp h with h | h
        · exact .inr (h ▸ List.mem_cons_self)
        · exact (mem_of_mem_place h).imp_right (List.mem_cons_of_mem _)

theorem place_increasing {k : κ} {a : α} :
    ∀ {l : List (κ × α)}, Increasing l → Increasing (place k a l)
  | [], _ => by simp [place, Increasing]
  | x :: l, h => by
    obtain ⟨hx, hl⟩ := List.pairwise_cons.mp h
    unfold place
    split
    · rename_i hk
      refine List.pairwise_cons.mpr ⟨fun e he => ?_, h⟩
      rcases List.mem_cons.mp he with rfl | he
      · exact hk
      · exact Nat.lt_trans hk (hx e he)
    · split
      · rename_i hk
        exact List.pairwise_cons.mpr ⟨fun e he => by simpa [hk] using hx e he, hl⟩
      · rename_i h1 h2
        refine List.pairwise_cons.mpr ⟨fun e he => ?_, place_increasing hl⟩
        rcases mem_of_mem_place he with rfl | he
        · exact Nat.lt_of_le_of_ne (Nat.le_of_not_lt h1) (Ne.symm h2)
        · exact hx e he

/-- Adds an entry; an entry of the same key is replaced. -/
def insert (m : KeyMap κ α) (k : κ) (a : α) : KeyMap κ α :=
  ⟨place k a m.entries, place_increasing m.increasing⟩

/-- The map of a list of entries; of two entries with one key the later counts. -/
def ofList (l : List (κ × α)) : KeyMap κ α := l.foldl (fun m e => m.insert e.1 e.2) empty

/-! ### Views -/

/-- The value at a key. -/
def get? (m : KeyMap κ α) (k : κ) : Option α :=
  (m.entries.find? fun e => Key.rank e.1 == Key.rank k).map Prod.snd

/-- Whether a key has a value. -/
def contains (m : KeyMap κ α) (k : κ) : Bool :=
  m.entries.any fun e => Key.rank e.1 == Key.rank k

/-- The keys in increasing order. -/
def keys (m : KeyMap κ α) : List κ := m.entries.map Prod.fst

/-- The number of entries. -/
def size (m : KeyMap κ α) : Nat := m.entries.length

/-- Whether there is no entry. -/
def isEmpty (m : KeyMap κ α) : Bool := m.entries.isEmpty

/-- The same keys with the values changed. -/
def mapValues (f : κ → α → β) (m : KeyMap κ α) : KeyMap κ β where
  entries := m.entries.map fun e => (e.1, f e.1 e.2)
  increasing := List.pairwise_map.mpr m.increasing

end KeyMap

/-- A finite set of keys. -/
abbrev KeySet (κ : Type) [Key κ] := KeyMap κ Unit

namespace KeySet

variable {κ : Type} [Key κ]

/-- Adds a key. -/
def add (s : KeySet κ) (k : κ) : KeySet κ := s.insert k ()

/-- The set of a list of keys, in any order and with any repetitions. -/
def ofList (l : List κ) : KeySet κ := l.foldr (fun k s => add s k) KeyMap.empty

/-- The keys in increasing order. -/
abbrev toList (s : KeySet κ) : List κ := KeyMap.keys s

end KeySet

end CardMachine
