import CardMachine.Check.Refuse
import CardMachine.Proofs.KeyMap
import CardMachine.Proofs.Machine.Runs
import Mathlib.Tactic.ByContra

/-! # A program without problems does not go wrong

The checks of a program look at its cards one by one; a run goes from card to card, over a tape that
the cards change. What ties the two together is an invariant: every cell holds a declared symbol
and the state is one a run may go to (`Program.Fits`). A program whose cards are `Closed`, as those
of a program without problems are, keeps it in every transition.

So a run of such a program on a tape without problems never meets a state without a card. It
fails only off the tape, or on a marker that is not in the alphabet: markers may be written, but no
card has to read them back. -/

namespace CardMachine.Program

variable {p : Program}

/-! ### What the checks say -/

theorem blame_eq_nil_iff {α : Type} {f : List α → Problem} {l : List α} :
    blame f l = [] ↔ l = [] := by
  cases l <;> simp [blame]

/-- No culprits among the elements of `l`: all of them pass the test. -/
theorem blame_filter_eq_nil_iff {α : Type} {f : List α → Problem} {q : α → Bool} {l : List α} :
    blame f (l.filter fun c => !q c) = [] ↔ ∀ c ∈ l, q c = true := by
  rw [blame_eq_nil_iff, List.filter_eq_nil_iff]
  simp

/-- The same where the culprits are collected in a set. -/
theorem blame_set_eq_nil_iff {f : List Symbol → Problem} {q : Symbol → Bool} {l : List Symbol} :
    blame f (KeySet.ofList (l.filter fun c => !q c)).toList = [] ↔ ∀ c ∈ l, q c = true := by
  rw [blame_eq_nil_iff, List.eq_nil_iff_forall_not_mem]
  simp only [KeySet.mem_toList_ofList, List.mem_filter, not_and, Bool.not_eq_true',
    Bool.not_eq_false]

theorem card?_eq_some_iff {id : StateId} {card : Card} :
    p.card? id = some card ↔ (id, card) ∈ p.cards := by
  simp only [card?, Option.bind_eq_some_iff, KeyMap.get?_eq_some_iff, cards, List.mem_filterMap,
    Option.map_eq_some_iff, Prod.mk.injEq]
  constructor
  · rintro ⟨s, hs, hc⟩; exact ⟨(id, s), hs, card, hc, rfl, rfl⟩
  · rintro ⟨⟨j, s⟩, hs, card', hc, rfl, rfl⟩; exact ⟨s, hs, hc⟩

/-- The cards, that of the halting state apart, read the whole alphabet, write declared symbols and
go to states that a run may go to. -/
structure Closed (p : Program) : Prop where
  entry : p.defines p.entry = true
  reads : ∀ id card, p.card? id = some card → id ≠ p.halt →
    ∀ c, p.alphabet.contains c = true → card.contains c = true
  writes : ∀ id card, p.card? id = some card → id ≠ p.halt →
    ∀ a ∈ card.entries, p.declares a.2.write = true
  next : ∀ id card, p.card? id = some card → id ≠ p.halt →
    ∀ a ∈ card.entries, p.defines a.2.next = true

theorem cardProblems_eq_nil (hp : p.problems = []) {id : StateId} {card : Card}
    (hc : p.card? id = some card) (hid : id ≠ p.halt) : p.cardProblems id card = [] := by
  simp only [problems, List.append_eq_nil_iff, List.flatMap_eq_nil_iff, List.mem_filter] at hp
  exact hp.1.2 (id, card) ⟨card?_eq_some_iff.mp hc, by simpa using hid⟩

/-- **The cards of a program without problems are closed.** -/
theorem closed_of_problems_eq_nil (hp : p.problems = []) : p.Closed where
  entry := by
    simp only [problems, List.append_eq_nil_iff] at hp
    have he := hp.1.1.1.2
    unfold entryProblems at he
    split at he
    · assumption
    · cases he
  reads id card hc hid c hmem := by
    have hcard := cardProblems_eq_nil hp hc hid
    simp only [cardProblems, List.append_eq_nil_iff] at hcard
    exact blame_filter_eq_nil_iff.mp hcard.1.1.1 c (KeyMap.contains_iff_mem_keys.mp hmem)
  writes id card hc hid a ha := by
    have hcard := cardProblems_eq_nil hp hc hid
    simp only [cardProblems, List.append_eq_nil_iff] at hcard
    exact blame_set_eq_nil_iff.mp hcard.1.2 _ (List.mem_map_of_mem ha)
  next id card hc hid a ha := by
    have hcard := cardProblems_eq_nil hp hc hid
    simp only [cardProblems, List.append_eq_nil_iff, nextProblems, List.filterMap_eq_nil_iff]
      at hcard
    by_contra hn
    have hnext := hcard.2 a ha
    rw [if_neg hn] at hnext
    cases hnext

/-! ### The invariant -/

/-- Every cell of the tape holds a declared symbol and a run may go to the state. -/
def Fits (p : Program) (tape : List Symbol) (state : StateId) : Prop :=
  (∀ c ∈ tape, p.declares c = true) ∧ p.defines state = true

/-- The failures that the checks do not exclude: off the tape, and on a marker outside the
alphabet. -/
def Excuses (p : Program) : RunError → Prop
  | .unknownState _ => False
  | .outOfBounds _ _ => True
  | .undefinedSymbol c _ => p.markers.contains c = true ∧ p.alphabet.contains c = false

/-- The ways a run of a program without problems may end. -/
def Allows (p : Program) : Termination → Prop
  | .halted => True
  | .budgetExhausted => True
  | .failed e => p.Excuses e

theorem fits_of_tapeProblems_eq_nil (hp : p.Closed) {tape : List Symbol} {head : UInt64}
    (ht : p.tapeProblems tape head = []) : p.Fits tape p.entry := by
  simp only [tapeProblems, List.append_eq_nil_iff] at ht
  exact ⟨blame_set_eq_nil_iff.mp ht.2, hp.entry⟩

/-- **One transition keeps the invariant.** -/
theorem fits_of_transition (hp : p.Closed) {c c' : Config} (hh : c.state ≠ p.halt)
    (hf : p.Fits c.tape.toList c.state) (h : p.transition c = .ok c') :
    p.Fits c'.tape.toList c'.state := by
  obtain ⟨cell, x, a, ⟨⟨card, hc, ha⟩, -, -⟩, rfl⟩ := due_of_transition_eq_ok h
  have ha := KeyMap.get?_eq_some_iff.mp ha
  refine ⟨fun y hy => ?_, hp.next _ _ hc hh _ ha⟩
  rcases Action.mem_or_eq_of_mem_perform (Array.mem_toList_iff.mp hy) with hy | rfl
  · exact hf.1 y (Array.mem_toList_iff.mpr hy)
  · exact hp.writes _ _ hc hh _ ha

/-- **Where the invariant holds, a transition fails only with an excuse.** -/
theorem excuses_of_transition (hp : p.Closed) {c : Config} {e : RunError} (hh : c.state ≠ p.halt)
    (hf : p.Fits c.tape.toList c.state) (h : p.transition c = .error e) : p.Excuses e := by
  cases stuck_of_transition_eq_error h with
  | unknownState hc =>
    have hd := hf.2
    simp [defines, hc, hh] at hd
  | outOfBounds => trivial
  | undefinedSymbol card cell x hc hi hs ha =>
    have hx : p.declares x = true := hf.1 x (Array.mem_toList_iff.mpr (Array.mem_of_getElem? hs))
    have hn : p.alphabet.contains x = false := by
      by_contra hn
      obtain ⟨a, ha'⟩ := KeyMap.isSome_get?_of_contains
        (hp.reads _ _ hc hh x (by simpa using hn))
      rw [ha] at ha'
      cases ha'
    exact ⟨by simpa [declares, hn] using hx, hn⟩

/-! ### Runs -/

/-- The invariant of a machine at work on a program with closed cards. -/
structure Sound (p : Program) (m : Machine) : Prop where
  program : m.program = p
  halt : m.halt = p.halt
  fits : p.Fits m.config.tape.toList m.config.state
  failure : ∀ e, m.failure = some e → p.Excuses e

theorem Sound.step (hp : p.Closed) {m : Machine} (hm : p.Sound m) : p.Sound m.step.1 := by
  have hstate : m.termination = none → m.config.state ≠ p.halt := by
    intro ht heq
    simp [Machine.termination, Machine.isHalted, heq, hm.halt] at ht
  rcases Machine.step_cases m with ⟨t, -, hs⟩ | ⟨ht, c, hc, hs⟩ | ⟨ht, e, he, hs⟩
  · rw [hs]; exact hm
  · rw [hs]
    rw [hm.program] at hc
    exact { hm with fits := fits_of_transition hp (hstate ht) hm.fits hc }
  · rw [hs]
    rw [hm.program] at he
    refine { hm with failure := fun e' h' => ?_ }
    cases h'
    exact excuses_of_transition hp (hstate ht) hm.fits he

theorem Sound.allows {m : Machine} (hm : p.Sound m) :
    p.Allows (m.termination.getD .budgetExhausted) := by
  unfold Machine.termination
  split
  · trivial
  · cases hf : m.failure with
    | none => trivial
    | some e => exact hm.failure e hf

theorem sound_start {tape : List Symbol} (hf : p.Fits tape p.entry) (head : Int64) :
    p.Sound ((Machine.start p tape head).withStates p.entry p.halt) :=
  ⟨rfl, rfl, by simpa [Machine.start, Machine.withStates] using hf, fun e he => by cases he⟩

/-- A run that starts where the invariant holds ends as the checks allow. -/
theorem allows_run (hp : p.Closed) {tape : List Symbol} (hf : p.Fits tape p.entry) (head : Int64)
    (budget : UInt64) : p.Allows (p.run tape head p.entry p.halt budget).termination := by
  obtain ⟨l, m, t, hr, hrun, -⟩ := p.exists_runs tape head p.entry p.halt budget
  obtain ⟨hm, -⟩ := hr.invariant (fun m hm => hm.step hp) (sound_start hf head)
  have ht : (p.run tape head p.entry p.halt budget).termination = t := by
    unfold run
    rw [hrun]
    rfl
  rw [ht, hr.termination_eq]
  exact hm.allows

/-- **A program without problems does not go wrong** on a tape without problems. At the start, after
every transition and at the end the cells hold declared symbols and the state is the halting state
or has a card; and with any budget and any observer the run halts, uses up its budget, leaves the
tape, or stops at a marker that is not in the alphabet. -/
theorem run_of_no_problems (p : Program) (tape : List Symbol) (head : UInt64)
    (hp : p.problems = []) (ht : p.tapeProblems tape head = []) (budget : UInt64) :
    p.Fits tape p.entry ∧
    (∀ x ∈ (p.watch tape (Head.ofIndex head.toNat) p.entry p.halt budget).2,
      p.Fits x.tape.toList x.state) ∧
    ∀ (σ : Type) (see : σ → Snapshot → σ) (s : σ),
      let r := (p.runWith tape (Head.ofIndex head.toNat) p.entry p.halt budget see s).1
      p.Fits r.tape r.state ∧ p.Allows r.termination := by
  have hc := closed_of_problems_eq_nil hp
  have hfits := fits_of_tapeProblems_eq_nil hc ht
  obtain ⟨l, m, t, hr, hrun, hwatch⟩ :=
    p.exists_runs tape (Head.ofIndex head.toNat) p.entry p.halt budget
  obtain ⟨hm, hl⟩ := hr.invariant (fun m hm => hm.step hc) (sound_start hfits _)
  refine ⟨hfits, fun x hx => ?_, fun σ see s => ?_⟩
  · rw [hwatch] at hx
    obtain ⟨m₁, hm₁, rfl⟩ := hl x hx
    exact hm₁.fits
  · rw [hrun]
    refine ⟨hm.fits, ?_⟩
    show p.Allows t
    rw [hr.termination_eq]
    exact hm.allows

/-- A program that reads back the marker it writes. -/
def rereading : Program where
  name := "Rereading"
  alphabet := KeySet.ofList ['a']
  markers := KeySet.ofList ['m']
  entry := 1
  halt := 0
  states := KeyMap.ofList [(0, .halting),
    (1, .executable (KeyMap.ofList [('a', { write := 'm', step := 0, next := 1 })]))]
  input := none

theorem run_of_no_problems_rereading :
    rereading.problems = [] ∧ rereading.tapeProblems ['a'] 0 = [] ∧
      rereading.Allows (rereading.run ['a'] (Head.ofIndex 0) 1 0 5).termination :=
  ⟨by decide, by decide,
    ((run_of_no_problems rereading ['a'] 0 (by decide) (by decide) 5).2.2 Unit (fun _ _ => ()) ()).2⟩

-- the failure on a marker does occur
example : (rereading.run ['a'] (Head.ofIndex 0) 1 0 5).termination =
    .failed (.undefinedSymbol 'm' 0) := by decide

end CardMachine.Program
