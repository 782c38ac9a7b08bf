import ChatPad.Proofs.Outcome.Untyped
import ChatPad.Proofs.Sequence.Runs
import Mathlib.Data.List.Chain

/-!
# The longest runs

A run stops at the ninth set, at the end of the sequence, or before a set that does something else
than its first set.  Each of the other sets is compared with the first one and not with the one before
it: strengths that are close to each other one by one can drift apart.  `IsCut` states this of any
runs, and it leaves no choice.

* `InputSequence.isCut_runsOf`: the runs that a sequence is typed in are such a cut;
* `InputSequence.IsCut.eq_runsOf`: there is no other;
* `InputSequence.chat_longest_runs`: so the chat of a sequence is the text of the only cut it has.
-/

namespace ChatPad

/-! ## The front of a list that a test accepts -/

section Front

variable {α : Type} {p : α → Bool}

/-- A front is found again if the test accepts all of it, and it is full or ends before a refusal. -/
theorem takeWhile_take_append {front rest : List α} {limit : Nat} (hlength : front.length ≤ limit)
    (haccepted : ∀ a ∈ front, p a = true)
    (hstop : front.length < limit → ∀ a ∈ rest.head?, p a = false) :
    ((front ++ rest).take limit).takeWhile p = front := by
  have hrest : (rest.take (limit - front.length)).takeWhile p = [] := by
    rcases hlength.eq_or_lt with hfull | hfree
    · rw [hfull, Nat.sub_self, List.take_zero, List.takeWhile_nil]
    · cases rest with
      | nil => rw [List.take_nil, List.takeWhile_nil]
      | cons a more =>
        obtain ⟨n, hn⟩ := Nat.exists_eq_succ_of_ne_zero (Nat.sub_ne_zero_of_lt hfree)
        have ha : p a = false := hstop hfree a rfl
        rw [hn, List.take_succ_cons, List.takeWhile_cons_of_neg (Bool.eq_false_iff.mp ha)]
  rw [List.take_append, List.take_of_length_le hlength, List.takeWhile_append_of_pos haccepted,
    hrest, List.append_nil]

/-- What comes after a front that is not full is refused. -/
theorem head?_drop_takeWhile_take {l : List α} {limit : Nat}
    (hfree : ((l.take limit).takeWhile p).length < limit) :
    ∀ a ∈ (l.drop ((l.take limit).takeWhile p).length).head?, p a = false := by
  induction l generalizing limit with
  | nil =>
    rw [List.drop_nil]
    exact nofun
  | cons b l ih =>
    obtain ⟨n, rfl⟩ := Nat.exists_eq_succ_of_ne_zero (Nat.ne_zero_of_lt hfree)
    rw [List.take_succ_cons] at hfree ⊢
    by_cases hb : p b = true
    · rw [List.takeWhile_cons_of_pos hb, List.length_cons] at hfree ⊢
      rw [List.drop_succ_cons]
      exact ih (Nat.lt_of_succ_lt_succ hfree)
    · rw [List.takeWhile_cons_of_neg hb, List.length_nil, List.drop_zero]
      rintro a ⟨⟩
      exact Bool.eq_false_iff.mpr hb

end Front

/-- The set after the front of a sequence is the first set of the next run. -/
theorem Run.head?_flatMap_sets (runs : List Run) :
    (runs.flatMap Run.sets).head? = runs.head?.map Run.first := by
  cases runs <;> rfl

/-- The text of a run, by the number of its sets. -/
theorem Run.chat_eq (run : Run) : run.chat =
    run.first.chat ++ if 1 < run.sets.length then Text.decimal run.sets.length else "" := by
  rw [chat, times?]
  by_cases hcopies : run.copies.length = 0
  · rw [if_pos hcopies, if_neg (by rw [sets, List.length_cons]; omega)]
    rfl
  · rw [if_neg hcopies, if_pos (by rw [sets, List.length_cons]; omega)]
    rfl

namespace InputSequence

/-- The number of sets that a run has at most. -/
def runLimit (collapse : Bool) : Nat := if collapse then longestRun else 1

/-- The runs cut the sets into pieces of `limit` sets at most, all of which do what the first of their
piece does.  A shorter piece ends with the last set, or before a set that does something else. -/
structure IsCut (limit : Nat) (runs : List Run) (sets : List InputSet) : Prop where
  covers : runs.flatMap Run.sets = sets
  bounded : ∀ run ∈ runs, 1 ≤ run.sets.length ∧ run.sets.length ≤ limit
  alike : ∀ run ∈ runs, ∀ set ∈ run.sets, set.sameOutcome run.first = true
  maximal : runs.IsChain fun run next =>
    run.sets.length < limit → next.first.sameOutcome run.first = false

variable {collapse : Bool} {first : InputSet}

/-! ## One run -/

/-- Whether or not repeats are collapsed, a run goes on while its sets do the same, up to its limit. -/
theorem skippedAfter_eq (collapse : Bool) (first : InputSet) (later : List InputSet) :
    skippedAfter collapse first later =
      ((later.take (runLimit collapse - 1)).takeWhile fun set => set.sameOutcome first).length := by
  cases collapse <;> rfl

/-- The set after a short run does something else. -/
theorem sameOutcome_after_skipped {later : List InputSet}
    (hshort : skippedAfter collapse first later + 1 < runLimit collapse) :
    ∀ next ∈ (later.drop (skippedAfter collapse first later)).head?,
      next.sameOutcome first = false := by
  rw [skippedAfter_eq] at hshort ⊢
  exact head?_drop_takeWhile_take (Nat.lt_sub_of_add_lt hshort)

/-- Copies are skipped, all of them and no more, if they fill the run or are followed by a set that
does something else. -/
theorem skippedAfter_append {copies rest : List InputSet}
    (hlimit : copies.length + 1 ≤ runLimit collapse)
    (halike : ∀ set ∈ copies, set.sameOutcome first = true)
    (hstop : copies.length + 1 < runLimit collapse →
      ∀ next ∈ rest.head?, next.sameOutcome first = false) :
    skippedAfter collapse first (copies ++ rest) = copies.length := by
  rw [skippedAfter_eq, takeWhile_take_append (Nat.le_sub_of_add_le hlimit) halike]
  intro hfree
  exact hstop (Nat.add_lt_of_lt_sub hfree)

/-! ## All runs -/

theorem length_le_runLimit_of_mem_runsOf {sets : List InputSet} {run : Run}
    (h : run ∈ runsOf collapse sets) : run.sets.length ≤ runLimit collapse := by
  cases collapse with
  | false =>
    rw [runsOf_false] at h
    obtain ⟨set, _, rfl⟩ := List.mem_map.mp h
    exact Nat.le_refl 1
  | true => exact (fitsDigit_of_mem_runsOf h).short

theorem isChain_runsOf (collapse : Bool) (sets : List InputSet) :
    (runsOf collapse sets).IsChain fun run next =>
      run.sets.length < runLimit collapse → next.first.sameOutcome run.first = false := by
  induction sets using runsOf.induct collapse with
  | case1 =>
    rw [runsOf]
    exact .nil
  | case2 set later ih =>
    rw [runsOf, List.isChain_cons]
    refine ⟨?_, ih⟩
    intro next hnext hshort
    have hlength := skippedAfter_le collapse set later
    rw [Run.sets, List.length_cons, List.length_take, Nat.min_eq_left hlength] at hshort
    refine sameOutcome_after_skipped hshort next.first ?_
    rw [← flatMap_sets_runsOf collapse (later.drop _), Run.head?_flatMap_sets]
    exact Option.mem_map_of_mem Run.first hnext

/-- **The runs that a sequence is typed in are as long as they can be.** -/
theorem isCut_runsOf (collapse : Bool) (sets : List InputSet) :
    IsCut (runLimit collapse) (runsOf collapse sets) sets where
  covers := flatMap_sets_runsOf collapse sets
  bounded := fun _ hrun => ⟨Nat.succ_pos _, length_le_runLimit_of_mem_runsOf hrun⟩
  alike := by
    intro run hrun set hset
    rcases List.mem_cons.mp hset with rfl | hcopy
    · exact run.first.sameOutcome_self
    · exact (fitsDigit_of_mem_runsOf hrun).alike set hcopy
  maximal := isChain_runsOf collapse sets

/-- **No other runs are as long as they can be**: where a run ends is decided by its first set and
the sets after it. -/
theorem IsCut.eq_runsOf {runs : List Run} {sets : List InputSet}
    (h : IsCut (runLimit collapse) runs sets) : runs = runsOf collapse sets := by
  induction runs generalizing sets with
  | nil =>
    obtain rfl := h.covers
    rw [List.flatMap_nil, runsOf]
  | cons run more ih =>
    obtain rfl := h.covers
    obtain ⟨⟨_, hlimit⟩, hbounded⟩ := List.forall_mem_cons.mp h.bounded
    obtain ⟨halike, hmore⟩ := List.forall_mem_cons.mp h.alike
    obtain ⟨hnext, hchain⟩ := List.isChain_cons.mp h.maximal
    have hskipped : skippedAfter collapse run.first (run.copies ++ more.flatMap Run.sets) =
        run.copies.length := by
      refine skippedAfter_append hlimit (fun set hset => halike set (.tail _ hset)) ?_
      intro hshort next hhead
      rw [Run.head?_flatMap_sets] at hhead
      obtain ⟨following, hfollowing, rfl⟩ := Option.map_eq_some_iff.mp hhead
      exact hnext following hfollowing hshort
    rw [List.flatMap_cons, Run.sets, List.cons_append, runsOf, hskipped, List.take_left,
      List.drop_left, ← ih ⟨rfl, hbounded, hmore, hchain⟩]

/-- **The chat of a sequence is its longest runs in a row.**  They are the only cut into runs of nine
sets at most, or of one set if repeats are not collapsed, that go on as long as their sets do the same:
every set is in one run, and a run is typed as its first set and its length. -/
theorem chat_longest_runs (sequence : InputSequence) (collapse : Bool) :
    ∃ runs : List Run,
      (∀ other, IsCut (if collapse then 9 else 1) other sequence.sets ↔ other = runs) ∧
      sequence.chat collapse = String.join (runs.map fun run =>
        run.first.chat ++ if 1 < run.sets.length then Text.decimal run.sets.length else "") := by
  refine ⟨runsOf collapse sequence.sets, fun other => ⟨IsCut.eq_runsOf, ?_⟩, ?_⟩
  · rintro rfl
    exact isCut_runsOf collapse sequence.sets
  · rw [chat, chatOf_eq]
    exact congrArg String.join (List.map_congr_left fun run _ => run.chat_eq)

/-- Strengths that drift: the third is close to the second, but not to the first. -/
example :
    let press (units : Nat) (h : (Single.finite false units).isFraction = true) : InputSet :=
      ⟨[⟨"up", "up", "up", .analog ⟨.finite false units, h⟩⟩]⟩
    chat ⟨[press 0 (by decide +kernel), press (2 ^ 125) (by decide +kernel),
      press (2 ^ 126) (by decide +kernel)]⟩ true = "up2up" := by decide +kernel

example : chat ⟨List.replicate 11 ⟨[⟨"a", "a", "a", .button⟩]⟩⟩ true = "a9a2" := by decide +kernel

end InputSequence

end ChatPad
