import ChatPad.Proofs.Outcome.Pairing
import Mathlib.Data.List.TakeWhile

/-!
# Chat in runs

A sequence is typed in runs: the first set of a run is spelled out, and a digit behind it says how
many sets the run has, if there are several.  Here the runs are made explicit.

* `InputSequence.chatOf_eq`: the message is the texts of the runs in a row;
* `InputSequence.flatMap_sets_runsOf`: the runs are the sequence, cut into pieces;
* `InputSequence.fitsDigit_of_mem_runsOf`: a run has nine sets at most, and they all do what its first
  set does;
* `forall₂_replayed`: what is read of runs, copies of their first sets, is related to the sequence set
  by set if each first set is related to its run;
* `InputSequence.sameOutcome_replayed`: so it does the same, both ways around.
-/

namespace ChatPad

/-- A set, and those after it that are not spelled out. -/
structure Run where
  first : InputSet
  copies : List InputSet

namespace Run

/-- All sets of a run. -/
def sets (run : Run) : List InputSet := run.first :: run.copies

/-- The number of sets of a run, if it is typed. -/
def times? (run : Run) : Option Nat := if run.copies.length = 0 then none else some run.sets.length

/-- The text of a run. -/
def chat (run : Run) : String := run.first.chat ++ (run.times?.map Text.decimal).getD ""

/-- One digit can stand for the copies of a run. -/
structure FitsDigit (run : Run) : Prop where
  short : run.sets.length ≤ InputSequence.longestRun
  alike : ∀ set ∈ run.copies, set.sameOutcome run.first = true

end Run

namespace InputSequence

/-- How many of the sets after `first` are not spelled out. -/
def skippedAfter (collapse : Bool) (first : InputSet) (later : List InputSet) : Nat :=
  if collapse then copiesAfter first later else 0

/-- The runs of a list of sets, as they are typed. -/
def runsOf (collapse : Bool) : List InputSet → List Run
  | [] => []
  | set :: later =>
    ⟨set, later.take (skippedAfter collapse set later)⟩ ::
      runsOf collapse (later.drop (skippedAfter collapse set later))
termination_by sets => sets.length
decreasing_by simp only [List.length_drop, List.length_cons]; omega

/-! ## One run -/

/-- The copies of a set are the sets after it that do the same, eight at most. -/
theorem take_copiesAfter (first : InputSet) (later : List InputSet) :
    later.take (copiesAfter first later) =
      (later.take (longestRun - 1)).takeWhile fun set => set.sameOutcome first := by
  have hprefix : (later.take (longestRun - 1)).takeWhile (fun set => set.sameOutcome first) <+:
      later :=
    (List.takeWhile_prefix _).trans (List.take_prefix _ _)
  exact (List.prefix_iff_eq_take.mp hprefix).symm

theorem copiesAfter_le (first : InputSet) (later : List InputSet) :
    copiesAfter first later ≤ longestRun - 1 ∧ copiesAfter first later ≤ later.length := by
  have hlength := (List.takeWhile_prefix (p := fun set => set.sameOutcome first)
    (l := later.take (longestRun - 1))).length_le
  rw [List.length_take] at hlength
  exact Nat.le_min.mp hlength

theorem skippedAfter_le (collapse : Bool) (first : InputSet) (later : List InputSet) :
    skippedAfter collapse first later ≤ later.length := by
  cases collapse with
  | false => exact Nat.zero_le _
  | true => exact (copiesAfter_le first later).2

/-- One digit can stand for the sets that are not spelled out. -/
theorem fitsDigit_skippedAfter (collapse : Bool) (first : InputSet) (later : List InputSet) :
    Run.FitsDigit ⟨first, later.take (skippedAfter collapse first later)⟩ := by
  cases collapse with
  | false => exact ⟨Nat.succ_le_of_lt (Nat.succ_pos 8), nofun⟩
  | true =>
    constructor
    · show (later.take (copiesAfter first later)).length + 1 ≤ longestRun
      have hcopies := (copiesAfter_le first later).1
      rw [List.length_take]
      unfold longestRun at *
      omega
    · show ∀ set ∈ later.take (copiesAfter first later), set.sameOutcome first = true
      rw [take_copiesAfter]
      intro set hset
      exact List.mem_takeWhile_imp (p := fun set : InputSet => set.sameOutcome first) hset

/-- The text of the run that begins with a set. -/
theorem chat_run {set : InputSet} {later : List InputSet} {copies : Nat}
    (hcopies : copies ≤ later.length) : Run.chat ⟨set, later.take copies⟩ =
      set.chat ++ if copies = 0 then "" else Text.decimal (copies + 1) := by
  simp only [Run.chat, Run.times?, Run.sets, List.length_cons, List.length_take,
    Nat.min_eq_left hcopies]
  split <;> rfl

/-! ## All runs -/

/-- **A message is its runs in a row.** -/
theorem chatOf_eq (collapse : Bool) (sets : List InputSet) :
    chatOf collapse sets = String.join ((runsOf collapse sets).map Run.chat) := by
  induction sets using runsOf.induct collapse with
  | case1 => rw [chatOf, runsOf]; rfl
  | case2 set later ih =>
    rw [chatOf, runsOf, List.map_cons, chat_run (skippedAfter_le collapse set later),
      String.join_cons, ← ih]
    rfl

/-- **The runs cut a sequence into pieces.** -/
theorem flatMap_sets_runsOf (collapse : Bool) (sets : List InputSet) :
    (runsOf collapse sets).flatMap Run.sets = sets := by
  induction sets using runsOf.induct collapse with
  | case1 => rw [runsOf, List.flatMap_nil]
  | case2 set later ih =>
    rw [runsOf, List.flatMap_cons, ih, Run.sets, List.cons_append, List.take_append_drop]

/-- **One digit can stand for the copies of each run.** -/
theorem fitsDigit_of_mem_runsOf {collapse : Bool} {sets : List InputSet} {run : Run}
    (h : run ∈ runsOf collapse sets) : run.FitsDigit := by
  induction sets using runsOf.induct collapse with
  | case1 =>
    rw [runsOf] at h
    cases h
  | case2 set later ih =>
    rw [runsOf] at h
    rcases List.mem_cons.mp h with rfl | hlater
    · exact fitsDigit_skippedAfter collapse set later
    · exact ih hlater

/-- Without collapsing, every set is a run of its own. -/
theorem runsOf_false (sets : List InputSet) : runsOf false sets = sets.map fun set => ⟨set, []⟩ := by
  induction sets with
  | nil => rw [runsOf, List.map_nil]
  | cons set later ih =>
    rw [runsOf, List.map_cons, ← ih]
    rfl

end InputSequence

/-! ## Runs are read as copies of their first set -/

theorem forall₂_replicate_length {α : Type} {R : α → α → Prop} {a : α} {l : List α}
    (h : ∀ b ∈ l, R a b) : List.Forall₂ R (List.replicate l.length a) l := by
  induction l with
  | nil => exact .nil
  | cons b l ih =>
    obtain ⟨hb, hl⟩ := List.forall_mem_cons.mp h
    exact .cons hb (ih hl)

theorem forall₂_flatMap {α β γ : Type} {R : β → γ → Prop} {f : α → List β} {g : α → List γ}
    {l : List α} (h : ∀ a ∈ l, List.Forall₂ R (f a) (g a)) :
    List.Forall₂ R (l.flatMap f) (l.flatMap g) := by
  induction l with
  | nil => exact .nil
  | cons a l ih =>
    obtain ⟨ha, hl⟩ := List.forall_mem_cons.mp h
    exact List.rel_append ha (ih hl)

/-- The sequence that is read of runs. -/
def replayed (runs : List Run) : List InputSet :=
  runs.flatMap fun run => List.replicate run.sets.length run.first

theorem replayed_map_single (sets : List InputSet) :
    replayed (sets.map fun set => ⟨set, []⟩) = sets := by
  rw [replayed, List.flatMap_map]
  exact List.flatMap_singleton' sets

/-- **Copies of the first sets do what the runs do.** -/
theorem forall₂_replayed {R : InputSet → InputSet → Prop} {runs : List Run}
    (h : ∀ run ∈ runs, ∀ set ∈ run.sets, R run.first set) :
    List.Forall₂ R (replayed runs) (runs.flatMap Run.sets) :=
  forall₂_flatMap fun run hrun => forall₂_replicate_length (h run hrun)

theorem length_replayed (runs : List Run) :
    (replayed runs).length = (runs.flatMap Run.sets).length :=
  (forall₂_replayed (R := fun _ _ => True) fun _ _ _ _ => trivial).length_eq

/-- **Copies of the first sets do what the sequence does**, and the other way around. -/
theorem InputSequence.sameOutcome_replayed {sets : List InputSet}
    (hrefl : ∀ s ∈ sets, s.sameOutcome s = true)
    (hsymm : ∀ s ∈ sets, ∀ t ∈ sets, s.sameOutcome t = true → t.sameOutcome s = true)
    (collapse : Bool) :
    sameOutcome ⟨replayed (runsOf collapse sets)⟩ ⟨sets⟩ = true ∧
      sameOutcome ⟨sets⟩ ⟨replayed (runsOf collapse sets)⟩ = true := by
  have hruns := flatMap_sets_runsOf collapse sets
  have hsame : ∀ run ∈ runsOf collapse sets, ∀ set ∈ run.sets,
      run.first.sameOutcome set = true ∧ set.sameOutcome run.first = true := by
    intro run hrun set hset
    have hmem (s : InputSet) (hs : s ∈ run.sets) : s ∈ sets := by
      rw [← hruns]
      exact List.mem_flatMap.mpr ⟨run, hrun, hs⟩
    have hfirst := hmem run.first List.mem_cons_self
    rcases List.mem_cons.mp hset with rfl | hcopy
    · exact ⟨hrefl _ hfirst, hrefl _ hfirst⟩
    · have halike := (fitsDigit_of_mem_runsOf hrun).alike set hcopy
      exact ⟨hsymm set (hmem set hset) run.first hfirst halike, halike⟩
  have hforth := forall₂_replayed (R := fun s t => s.sameOutcome t = true)
    fun run hrun set hset => (hsame run hrun set hset).1
  have hback := forall₂_replayed (R := fun s t => t.sameOutcome s = true)
    fun run hrun set hset => (hsame run hrun set hset).2
  rw [hruns] at hforth hback
  exact ⟨sameOutcome_iff_forall₂.mpr hforth, sameOutcome_iff_forall₂.mpr hback.flip⟩

end ChatPad
