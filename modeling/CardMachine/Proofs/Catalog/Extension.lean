import CardMachine.Proofs.Catalog.Lookup
import Mathlib.Data.String.Basic

/-! # Extending a catalog by a directory

A directory is listed in any order. Its program files, in the order of their names, are a list that
depends on what is listed alone (`ProgramFiles.unique`); each of them gives a program or an error.

A program is added if its name is not taken, and a name is taken by an old program or by a program
of an earlier file, whether that one was added or not: if it was not, then another program has its
name (`foldl_add`). So the names of a catalog that could be told apart still can, all of them lead
to their programs, and a second extension by the same directory finds every name taken. -/

namespace CardMachine

open Text (sameIgnoringCase)

namespace Text

theorem sameIgnoringCase_iff {s t : String} : sameIgnoringCase s t = true ↔
    s.toList.map Char.toLower = t.toList.map Char.toLower := beq_iff_eq

theorem sameIgnoringCase_congr {s t : String} (h : sameIgnoringCase s t = true) (u : String) :
    sameIgnoringCase u s = sameIgnoringCase u t := by
  unfold sameIgnoringCase
  rw [sameIgnoringCase_iff.mp h]

end Text

/-! ### The program files of a directory -/

/-- A file by its name, with its text. -/
abbrev NamedFile := String × Except Obstacle String

/-- The entry as a file, if it is a program file. -/
def programFile? (e : String × Entry) : Option NamedFile :=
  match e.2 with
  | .directory => none
  | .file text => if extension? e.1 = some programExtension then some (e.1, text) else none

/-- Loads a program file of a directory. -/
def loadFrom (directory : String) (f : NamedFile) : Except Error Program :=
  loadText Program.ofText (entryPath directory f.1) f.2

/-- The program of a file with its path, or the error for the file. -/
def outcome (directory : String) (f : NamedFile) : Except Error (String × Program) :=
  match loadFrom directory f with
  | .ok p => .ok (entryPath directory f.1, p)
  | .error cause => .error (.unloadable (entryPath directory f.1) cause)

/-- The programs of those files that can be loaded. -/
def programsOf (directory : String) (files : List NamedFile) : List Program :=
  files.filterMap fun f => (loadFrom directory f).toOption

/-- The errors for those files that cannot. -/
def errorsOf (directory : String) (files : List NamedFile) : List Error :=
  files.filterMap fun f =>
    match loadFrom directory f with
    | .ok _ => none
    | .error cause => some (.unloadable (entryPath directory f.1) cause)

/-- The program files among the entries of a directory, in the order of their names. -/
structure ProgramFiles (listing : Listing) (files : List NamedFile) : Prop where
  sorted : files.Pairwise fun f g => f.1 < g.1
  perm : files.Perm (listing.filterMap programFile?)

theorem loadFile?_eq (directory : String) (e : String × Entry) :
    loadFile? directory e = (programFile? e).map (outcome directory) := by
  obtain ⟨name, _ | text⟩ := e
  · rfl
  · unfold loadFile? programFile? outcome loadFrom
    dsimp only
    split
    · rw [Option.map_some]
      split <;> simp_all
    · rfl

theorem name_of_programFile? {e : String × Entry} {f : NamedFile} (h : programFile? e = some f) :
    f.1 = e.1 := by
  obtain ⟨name, _ | text⟩ := e
  · cases h
  · unfold programFile? at h
    dsimp only at h
    split at h
    · cases h
      rfl
    · cases h

/-- Entries in the order of their names. -/
theorem pairwise_sorted {α : Type} {l : List (String × α)} (hl : (l.map Prod.fst).Nodup) :
    (l.mergeSort fun a b => decide (a.1 ≤ b.1)).Pairwise fun a b => a.1 < b.1 := by
  have hle : (l.mergeSort fun a b => decide (a.1 ≤ b.1)).Pairwise fun a b =>
      decide (a.1 ≤ b.1) = true :=
    List.pairwise_mergeSort
      (fun a b c hab hbc => by simpa using le_trans (by simpa using hab) (by simpa using hbc))
      (fun a b => by simpa using le_total a.1 b.1) l
  have hne : ((l.mergeSort fun a b => decide (a.1 ≤ b.1)).map Prod.fst).Nodup :=
    ((List.mergeSort_perm l _).map Prod.fst).nodup_iff.mpr hl
  refine (hle.and (List.pairwise_map.mp hne)).imp fun h => ?_
  exact lt_of_le_of_ne (by simpa using h.1) h.2

/-- **A directory is loaded file by file**, in the order of the names. -/
theorem exists_programFiles {listing : Listing} (hl : (listing.map Prod.fst).Nodup)
    (directory : String) : ∃ files, ProgramFiles listing files ∧
      loadListing directory listing = files.map (outcome directory) := by
  refine ⟨(listing.mergeSort fun a b => decide (a.1 ≤ b.1)).filterMap programFile?,
    ⟨?_, (List.mergeSort_perm _ _).filterMap _⟩, ?_⟩
  · refine List.pairwise_filterMap.mpr ((pairwise_sorted hl).imp fun hab f hf g hg => ?_)
    rw [name_of_programFile? hf, name_of_programFile? hg]
    exact hab
  · rw [List.map_filterMap, loadListing]
    exact congrArg (List.filterMap · _) (funext (loadFile?_eq directory))

/-- **The program files do not depend on the order of the listing.** -/
theorem ProgramFiles.unique {listing listing' : Listing} {files files' : List NamedFile}
    (h : ProgramFiles listing files) (h' : ProgramFiles listing' files')
    (hp : listing'.Perm listing) : files' = files := by
  have hperm : files'.Perm files := h'.perm.trans ((hp.filterMap _).trans h.perm.symm)
  exact hperm.eq_of_pairwise (fun _ _ _ _ hlt hgt => absurd hlt (lt_asymm hgt)) h'.sorted h.sorted

/-! ### Names -/

/-- Whether a program of the list has the name, whatever the case of its letters. -/
def taken (ps : List Program) (name : String) : Bool :=
  ps.any fun p => sameIgnoringCase p.name name

/-- The programs of a list with names that are not taken: neither by one of the programs `seen` nor
by one that comes earlier in the list. -/
def newcomers : (seen : List Program) → List Program → List Program
  | _, [] => []
  | seen, p :: ps =>
    if taken seen p.name then newcomers (p :: seen) ps else p :: newcomers (p :: seen) ps

/-- The names of the programs can be told apart without regard to the case of their letters. -/
def Distinct (ps : List Program) : Prop :=
  ps.Pairwise fun p q => sameIgnoringCase p.name q.name = false

instance (ps : List Program) : Decidable (Distinct ps) := List.instDecidablePairwise ps

variable {p : Program} {ps seen : List Program} {c : Catalog}

theorem taken_iff {name : String} :
    taken ps name = true ↔ ∃ p ∈ ps, sameIgnoringCase p.name name = true := List.any_eq_true

theorem taken_cons (p : Program) (ps : List Program) (name : String) :
    taken (p :: ps) name = (sameIgnoringCase p.name name || taken ps name) := rfl

theorem taken_append (ps qs : List Program) (name : String) :
    taken (ps ++ qs) name = (taken ps name || taken qs name) := List.any_append

theorem taken_congr {s t : String} (h : sameIgnoringCase s t = true) (ps : List Program) :
    taken ps s = taken ps t := by
  unfold taken
  simp only [Text.sameIgnoringCase_congr h]

theorem taken_name (hp : p ∈ ps) : taken ps p.name = true :=
  taken_iff.mpr ⟨p, hp, Text.sameIgnoringCase_refl p.name⟩

/-- A program whose name is taken already takes no other name. -/
theorem taken_cons_of_taken (h : taken ps p.name = true) (name : String) :
    taken (p :: ps) name = taken ps name := by
  rw [taken_cons]
  cases hs : sameIgnoringCase p.name name with
  | false => rfl
  | true => rw [← taken_congr hs, h]; rfl

theorem mem_newcomers : ∀ {ps seen : List Program}, p ∈ newcomers seen ps →
    p ∈ ps ∧ taken seen p.name = false
  | q :: ps, seen, h => by
    have hlater : p ∈ newcomers (q :: seen) ps → p ∈ q :: ps ∧ taken seen p.name = false := by
      intro h
      obtain ⟨hp, hnew⟩ := mem_newcomers h
      rw [taken_cons, Bool.or_eq_false_iff] at hnew
      exact ⟨List.mem_cons_of_mem _ hp, hnew.2⟩
    rw [newcomers] at h
    split at h
    · exact hlater h
    · rename_i hq
      rcases List.mem_cons.mp h with rfl | h
      · exact ⟨List.mem_cons_self, by simpa using hq⟩
      · exact hlater h

theorem distinct_newcomers : ∀ (ps seen : List Program), Distinct (newcomers seen ps)
  | [], _ => .nil
  | q :: ps, seen => by
    rw [newcomers]
    split
    · exact distinct_newcomers ps _
    · refine .cons (fun p hp => ?_) (distinct_newcomers ps _)
      have hnew := (mem_newcomers hp).2
      rw [taken_cons, Bool.or_eq_false_iff] at hnew
      exact hnew.1

theorem distinct_append_newcomers (h : Distinct ps) (qs : List Program) :
    Distinct (ps ++ newcomers ps qs) := by
  refine List.pairwise_append.mpr ⟨h, distinct_newcomers qs ps, fun p hp q hq => ?_⟩
  rw [Bool.eq_false_iff]
  intro hs
  have hnew := (mem_newcomers hq).2
  rw [taken_iff.mpr ⟨p, hp, hs⟩] at hnew
  cases hnew

/-- Afterwards all names of the list are taken. -/
theorem taken_append_newcomers : ∀ {qs seen : List Program}, p ∈ qs →
    taken (seen ++ newcomers seen qs) p.name = true
  | q :: qs, seen, hp => by
    have hq : taken (seen ++ newcomers seen (q :: qs)) q.name = true := by
      rw [newcomers]
      split
      · rename_i h
        rw [taken_append, h]
        rfl
      · exact taken_name (by simp)
    rcases List.mem_cons.mp hp with rfl | hp
    · exact hq
    · have hlater : taken ((q :: seen) ++ newcomers (q :: seen) qs) p.name = true :=
        taken_append_newcomers hp
      rw [List.cons_append] at hlater
      obtain ⟨r, hr, hs⟩ := taken_iff.mp hlater
      rcases List.mem_cons.mp hr with rfl | hr
      · rwa [taken_congr hs] at hq
      · refine taken_iff.mpr ⟨r, ?_, hs⟩
        rw [newcomers]
        rcases List.mem_append.mp hr with hr | hr
        · exact List.mem_append_left _ hr
        · refine List.mem_append_right _ ?_
          split
          · exact hr
          · exact List.mem_cons_of_mem _ hr

theorem newcomers_eq_nil : ∀ {qs seen : List Program}, (∀ q ∈ qs, taken seen q.name = true) →
    newcomers seen qs = []
  | [], _, _ => rfl
  | q :: qs, seen, h => by
    rw [newcomers, if_pos (h q List.mem_cons_self)]
    refine newcomers_eq_nil fun r hr => ?_
    rw [taken_cons, h r (List.mem_cons_of_mem _ hr), Bool.or_true]

/-! ### Extension -/

namespace Catalog

theorem isSome_program? (c : Catalog) (name : String) :
    (c.program? name).isSome = taken c.programs name := List.isSome_find?

/-- **A program is found under its own name** if the names can be told apart. -/
theorem program_name_of_distinct (h : Distinct c.programs) (hp : p ∈ c.programs) :
    c.program p.name = .ok p := by
  obtain ⟨before, after, hsplit⟩ := List.append_of_mem hp
  have hfind : c.program? p.name = some p := by
    refine List.find?_eq_some_iff_append.mpr
      ⟨Text.sameIgnoringCase_refl p.name, before, after, hsplit, fun q hq => ?_⟩
    rw [hsplit] at h
    rw [(List.pairwise_append.mp h).2.2 q hq p List.mem_cons_self]
    rfl
  rw [program, hfind]

/-- **Programs added one after the other** are those whose names are not taken. -/
theorem foldl_add : ∀ (qs : List Program) (c : Catalog) (seen : List Program),
    (∀ name, taken seen name = taken c.programs name) →
      qs.foldl add c = { c with programs := c.programs ++ newcomers seen qs }
  | [], c, seen, _ => by rw [newcomers, List.append_nil]; rfl
  | q :: qs, c, seen, h => by
    rw [List.foldl_cons, add, isSome_program?, newcomers, h]
    split
    · rename_i hq
      refine foldl_add qs c (q :: seen) fun name => ?_
      rw [← h] at hq
      rw [taken_cons_of_taken hq, h]
    · rw [foldl_add qs _ (q :: seen) fun name => ?_]
      · simp
      · rw [taken_cons, h, taken_append, taken_cons, Bool.or_comm]
        simp [taken]

theorem extend_error (c : Catalog) (e : Error) (l : Loaded) :
    c.extend (.error e :: l) = ((c.extend l).1, e :: (c.extend l).2) := rfl

/-- The programs of the files are added one after the other, and the errors are returned. -/
theorem extend_outcomes (directory : String) : ∀ (files : List NamedFile) (c : Catalog),
    c.extend (files.map (outcome directory)) =
      ((programsOf directory files).foldl add c, errorsOf directory files)
  | [], _ => rfl
  | f :: files, c => by
    rw [List.map_cons, outcome, programsOf, List.filterMap_cons, errorsOf, List.filterMap_cons]
    cases loadFrom directory f with
    | ok p => exact extend_outcomes directory files (c.add p)
    | error cause =>
      dsimp only
      rw [extend_error, extend_outcomes directory files c]
      rfl

/-- **Extending a catalog by a directory.** The programs of its files are added after the old ones
in the order of the file names, except those whose names are taken by an old program or by that of
an earlier file, and there is an error for each file that cannot be loaded. The names can still be
told apart, each leads to its program, and neither another order of the listing nor a second
extension changes anything. -/
theorem extendFrom_of_distinct {s : Storage} {directory : String} {listing : Listing}
    (hc : Distinct c.programs) (hs : s.list directory = some (.ok listing))
    (hl : (listing.map Prod.fst).Nodup) :
    let r := c.extendFrom s directory
    (∃ files, ProgramFiles listing files ∧
      r = ({ c with programs := c.programs ++ newcomers c.programs (programsOf directory files) },
        errorsOf directory files)) ∧
    Distinct r.1.programs ∧ (∀ p ∈ r.1.programs, r.1.program p.name = .ok p) ∧
    ∀ s' listing', s'.list directory = some (.ok listing') → listing'.Perm listing →
      c.extendFrom s' directory = r ∧ r.1.extendFrom s' directory = r := by
  obtain ⟨files, hfiles, hload⟩ := exists_programFiles hl directory
  have hextend : ∀ (c : Catalog) (s : Storage) (listing' : Listing),
      s.list directory = some (.ok listing') → listing'.Perm listing → c.extendFrom s directory =
        ({ c with programs := c.programs ++ newcomers c.programs (programsOf directory files) },
          errorsOf directory files) := by
    intro c s listing' hs hperm
    obtain ⟨files', hfiles', hload'⟩ :=
      exists_programFiles ((hperm.map Prod.fst).nodup_iff.mpr hl) directory
    obtain rfl := hfiles.unique hfiles' hperm
    rw [extendFrom, Storage.loadDirectory, hs]
    dsimp only
    rw [hload', extend_outcomes, foldl_add _ _ _ fun _ => rfl]
  intro r
  have hr : r = _ := hextend c s listing hs (.refl _)
  have hdistinct : Distinct r.1.programs := by
    rw [hr]
    exact distinct_append_newcomers hc _
  refine ⟨⟨files, hfiles, hr⟩, hdistinct, fun p hp => program_name_of_distinct hdistinct hp,
    fun s' listing' hs' hperm => ⟨(hextend c s' listing' hs' hperm).trans hr.symm, ?_⟩⟩
  rw [hextend _ s' listing' hs' hperm, hr]
  dsimp only
  rw [newcomers_eq_nil fun q hq => taken_append_newcomers hq, List.append_nil]

/-- A directory with two programs of one name but for the case of its letters, a program that the
catalog has already, and a program file that is no text. -/
def shelf : Listing :=
  [("sub.cards", .directory), ("d.cards", .file (.error .invalidText)),
    ("b.cards", .file (.ok "name: walk\ncards:\n1:")), ("notes.txt", .file (.ok "name: Notes")),
    ("c.cards", .file (.ok "name: STEP\ncards:\n1:")),
    ("a.cards", .file (.ok "name: Walk\ncards:\n1:"))]

theorem extendFrom_shelf :
    let s : Storage := ⟨fun _ => .error .notFound, fun _ => some (.ok shelf)⟩
    let c : Catalog := ⟨[⟨"Step", ∅, ∅, 1, 0, ∅, none⟩], []⟩
    let r := c.extendFrom s "d"
    Distinct c.programs ∧ (shelf.map Prod.fst).Nodup ∧
      r.1.names = ["Step", "Walk"] ∧ r.2.length = 1 ∧ r.1.extendFrom s "d" = r := by
  intro s c r
  have hc : Distinct c.programs := by decide
  have hl : (shelf.map Prod.fst).Nodup := by decide
  obtain ⟨⟨files, hfiles, hr⟩, -, -, hagain⟩ := extendFrom_of_distinct (s := s) hc rfl hl
  have hshelf : ProgramFiles shelf [("a.cards", .ok "name: Walk\ncards:\n1:"),
      ("b.cards", .ok "name: walk\ncards:\n1:"), ("c.cards", .ok "name: STEP\ncards:\n1:"),
      ("d.cards", .error .invalidText)] := ⟨by decide, by decide⟩
  obtain rfl := hshelf.unique hfiles (.refl _)
  have hr : r = _ := hr
  exact ⟨hc, hl, by rw [hr]; rfl, by rw [hr]; rfl, (hagain s shelf rfl (.refl _)).2⟩

end Catalog

end CardMachine
