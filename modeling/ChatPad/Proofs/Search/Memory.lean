import ChatPad.Proofs.Search.Ways

/-!
# A search with a memory finds the first way

An attempt carries captures and a memory of failed states along.  `Attempt.Finds` compares it with a
list of ways: the attempt succeeds if and only if the list is not empty, then records the first way, and
it keeps the memory sound.  If there is no way, it may leave captures behind, but none of those is gone
that were there before.  `Attempt.Follows` says more: what fails has taken everything back.  What is in
memory does not show in these descriptions, so a search that follows a list gives the same answer
whatever it recalls.

* one lemma for each way in which attempts are put together: alternatives are appended (`Follows.orElse`,
  `Finds.orElse`), captures are put in front and stay there (`Finds.recording`), and going back to the
  mark makes of an attempt that finds one that follows (`Finds.restoring`, `Finds.unlessKnown`);
* one lemma for each part of a round (`setStart_follows` to `tokenEndRound_follows`), and by induction
  on the rounds `tokenEnd_follows`;
* `Search.captures?_eq_head?`: the answer is the first of all ways.
-/

namespace ChatPad

/-! ## The memory -/

theorem Stage.rank_injective {a b : Stage} (h : a.rank = b.rank) : a = b := by
  cases a <;> cases b <;> first | rfl | cases h

theorem SearchState.eq_of_compare {a b : SearchState} (h : SearchState.compare a b = .eq) :
    a = b := by
  simp only [SearchState.compare, compareLex_eq_eq, compareOn, Nat.compare_eq_eq] at h
  obtain ⟨hoffset, hsets, htokens, hrank⟩ := h
  have hstage := Stage.rank_injective hrank
  cases a
  cases b
  simp only at hoffset hsets htokens hstage
  rw [hoffset, hsets, htokens, hstage]

theorem Memo.mem_insert_iff {memo : Memo} {state other : SearchState} :
    other ∈ memo.insert state ↔ other = state ∨ other ∈ memo := by
  rw [Std.TreeSet.mem_insert]
  constructor
  · intro hleft
    rcases hleft with h | h
    · exact Or.inl (SearchState.eq_of_compare h).symm
    · exact Or.inr h
  · intro hright
    rcases hright with rfl | h
    · exact Or.inl Std.ReflCmp.compare_self
    · exact Or.inr h

/-- Going back takes away exactly what was recorded since. -/
theorem Trail.captures_rewind {trail after : Trail} {recorded : List Capture}
    (h : after.captures = recorded ++ trail.captures) :
    (after.rewind trail.count).captures = trail.captures := by
  show after.captures.drop (after.count - trail.count) = trail.captures
  rw [after.count_eq, trail.count_eq, h, List.length_append, Nat.add_sub_cancel, List.drop_left]

/-! ## Following a list of ways -/

namespace Attempt

/-- **What an attempt finds of a list of ways**, from a trail with `mark` captures.  With a memory of
hopeless states it succeeds exactly if there is a way, and remembers only hopeless states.  It adds to
the captures: those of the first way if there is one, and else whatever it has tried. -/
def Finds (hopeless : SearchState → Prop) (mark : Nat) (attempt : Attempt)
    (ways : List (List Capture)) : Prop :=
  ∀ trail : Trail, trail.count = mark → (∀ state ∈ trail.failed, hopeless state) →
    (∀ state ∈ (attempt trail).2.failed, hopeless state) ∧
    (attempt trail).1 = ways.head?.isSome ∧
    ∃ recorded, (attempt trail).2.captures = recorded ++ trail.captures ∧
      ∀ way ∈ ways.head?, recorded = way.reverse

/-- **What an attempt makes of a list of ways**, from a trail with `mark` captures.  With a memory of
hopeless states it succeeds exactly if there is a way, adds the captures of the first one, or none, and
remembers only hopeless states. -/
def Follows (hopeless : SearchState → Prop) (mark : Nat) (attempt : Attempt)
    (ways : List (List Capture)) : Prop :=
  ∀ trail : Trail, trail.count = mark → (∀ state ∈ trail.failed, hopeless state) →
    (∀ state ∈ (attempt trail).2.failed, hopeless state) ∧
    (attempt trail).1 = ways.head?.isSome ∧
    (attempt trail).2.captures = (ways.head?.getD []).reverse ++ trail.captures

variable {hopeless : SearchState → Prop} {mark : Nat} {attempt first second : Attempt}
  {ways later : List (List Capture)}

theorem Follows.finds (h : Follows hopeless mark attempt ways) :
    Finds hopeless mark attempt ways := by
  intro trail hmark hsound
  obtain ⟨hmemory, hok, hcaptures⟩ := h trail hmark hsound
  refine ⟨hmemory, hok, _, hcaptures, ?_⟩
  intro way hway
  rw [Option.mem_def.mp hway, Option.getD_some]

theorem Follows.never : Follows hopeless mark never [] :=
  fun _ _ hsound => ⟨hsound, rfl, rfl⟩

theorem Follows.done : Follows hopeless mark done [[]] :=
  fun _ _ hsound => ⟨hsound, rfl, rfl⟩

/-- If the first attempt finds nothing, the second one starts with the same captures. -/
theorem Follows.orElse_of_nil (hfirst : Follows hopeless mark first []) (second : Attempt)
    {trail : Trail} (hmark : trail.count = mark) (hsound : ∀ state ∈ trail.failed, hopeless state) :
    ∃ after, orElse first second trail = second after ∧ after.count = mark ∧
      after.captures = trail.captures ∧ ∀ state ∈ after.failed, hopeless state := by
  obtain ⟨hmemory, hok, hcaptures⟩ := hfirst trail hmark hsound
  rw [Attempt.orElse]
  generalize first trail = result at hmemory hok hcaptures
  obtain ⟨ok, after⟩ := result
  cases hok
  have hback : after.captures = trail.captures := hcaptures
  refine ⟨after, rfl, ?_, hback, hmemory⟩
  rw [after.count_eq, hback, ← trail.count_eq, hmark]

/-- If the first attempt finds a way, the second one is not made. -/
theorem Follows.orElse_of_cons {way : List Capture} {rest : List (List Capture)}
    (hfirst : Follows hopeless mark first (way :: rest)) (second : Attempt) {trail : Trail}
    (hmark : trail.count = mark) (hsound : ∀ state ∈ trail.failed, hopeless state) :
    orElse first second trail = first trail := by
  obtain ⟨_, hok, _⟩ := hfirst trail hmark hsound
  rw [Attempt.orElse]
  generalize first trail = result at hok ⊢
  obtain ⟨ok, after⟩ := result
  cases hok
  rfl

theorem Follows.orElse (hfirst : Follows hopeless mark first ways)
    (hsecond : Follows hopeless mark second later) :
    Follows hopeless mark (orElse first second) (ways ++ later) := by
  intro trail hmark hsound
  cases ways with
  | nil =>
    obtain ⟨after, heq, hcount, hback, hmemory⟩ := hfirst.orElse_of_nil second hmark hsound
    rw [heq, ← hback]
    exact hsecond after hcount hmemory
  | cons way rest =>
    rw [hfirst.orElse_of_cons second hmark hsound]
    exact hfirst trail hmark hsound

/-- Only the last attempt may leave captures behind. -/
theorem Finds.orElse (hfirst : Follows hopeless mark first ways)
    (hsecond : Finds hopeless mark second later) :
    Finds hopeless mark (orElse first second) (ways ++ later) := by
  intro trail hmark hsound
  cases ways with
  | nil =>
    obtain ⟨after, heq, hcount, hback, hmemory⟩ := hfirst.orElse_of_nil second hmark hsound
    rw [heq, ← hback]
    exact hsecond after hcount hmemory
  | cons way rest =>
    rw [hfirst.orElse_of_cons second hmark hsound]
    exact hfirst.finds trail hmark hsound

theorem Follows.firstOf {α : Type} {l : List α} {attempt : α → Attempt}
    {ways : α → List (List Capture)} (h : ∀ a ∈ l, Follows hopeless mark (attempt a) (ways a)) :
    Follows hopeless mark (firstOf (l.map attempt)) (l.flatMap ways) := by
  induction l with
  | nil => exact Follows.never
  | cons a l ih =>
    rw [List.flatMap_cons]
    exact Follows.orElse (h a List.mem_cons_self) (ih fun b hb => h b (List.mem_cons_of_mem a hb))

/-- A recorded capture is in front of every way, and stays if there is none. -/
theorem Finds.recording (h : Finds hopeless (mark + 1) attempt ways) (capture : Capture) :
    Finds hopeless mark (recording capture attempt) (ways.map (capture :: ·)) := by
  intro trail hmark hsound
  obtain ⟨hmemory, hok, recorded, hcaptures, hway⟩ :=
    h (trail.record capture) (congrArg (· + 1) hmark) hsound
  refine ⟨hmemory, ?_, recorded ++ [capture], ?_, ?_⟩
  · rw [List.head?_map, Option.isSome_map]
    exact hok
  · rw [List.append_assoc]
    exact hcaptures
  · intro way hmem
    rw [List.head?_map] at hmem
    obtain ⟨rest, hrest, rfl⟩ := Option.map_eq_some_iff.mp hmem
    rw [hway rest hrest, List.reverse_cons]

theorem Follows.marking {attempt : Nat → Attempt} (h : Follows hopeless mark (attempt mark) ways) :
    Follows hopeless mark (marking attempt) ways := by
  intro trail hmark hsound
  rw [Attempt.marking, hmark]
  exact h trail hmark hsound

/-- An attempt that finds nothing fails, and what it has left can be taken back. -/
theorem Finds.of_nil (h : Finds hopeless mark attempt []) {trail : Trail}
    (hmark : trail.count = mark) (hsound : ∀ state ∈ trail.failed, hopeless state) :
    ∃ after, attempt trail = (false, after) ∧ (after.rewind mark).captures = trail.captures ∧
      ∀ state ∈ after.failed, hopeless state := by
  obtain ⟨hmemory, hok, _, hcaptures, _⟩ := h trail hmark hsound
  generalize attempt trail = result at hmemory hok hcaptures
  obtain ⟨ok, after⟩ := result
  cases hok
  refine ⟨after, rfl, ?_, hmemory⟩
  rw [← hmark]
  exact Trail.captures_rewind hcaptures

/-- An attempt that finds a way succeeds, and leaves the captures of this way. -/
theorem Finds.of_cons {way : List Capture} {rest : List (List Capture)}
    (h : Finds hopeless mark attempt (way :: rest)) {trail : Trail}
    (hmark : trail.count = mark) (hsound : ∀ state ∈ trail.failed, hopeless state) :
    ∃ after, attempt trail = (true, after) ∧ after.captures = way.reverse ++ trail.captures ∧
      ∀ state ∈ after.failed, hopeless state := by
  obtain ⟨hmemory, hok, recorded, hcaptures, hway⟩ := h trail hmark hsound
  generalize attempt trail = result at hmemory hok hcaptures
  obtain ⟨ok, after⟩ := result
  cases hok
  rw [hway way rfl] at hcaptures
  exact ⟨after, rfl, hcaptures, hmemory⟩

/-- Going back to the mark takes away what a failing attempt has left. -/
theorem Finds.restoring (h : Finds hopeless mark attempt ways) :
    Follows hopeless mark (restoring mark attempt) ways := by
  intro trail hmark hsound
  rw [Attempt.restoring]
  cases ways with
  | nil =>
    obtain ⟨after, heq, hback, hmemory⟩ := h.of_nil hmark hsound
    rw [heq]
    exact ⟨hmemory, rfl, hback⟩
  | cons way rest =>
    obtain ⟨after, heq, hcaptures, hmemory⟩ := h.of_cons hmark hsound
    rw [heq]
    exact ⟨hmemory, rfl, hcaptures⟩

/-- A state may be recalled as failed, or remembered, because it is hopeless exactly if there is no
way on from here. -/
theorem Finds.unlessKnown {recalls : Recall} {state : SearchState} {attempt : Nat → Attempt}
    (hrecalls : ∀ failed, recalls failed state = true → state ∈ failed)
    (hstate : hopeless state ↔ ways = []) (h : Finds hopeless mark (attempt mark) ways) :
    Follows hopeless mark (unlessKnown recalls state attempt) ways := by
  intro trail hmark hsound
  rw [Attempt.unlessKnown]
  by_cases hknown : recalls trail.failed state = true
  · rw [if_pos hknown, hstate.mp (hsound state (hrecalls _ hknown))]
    exact ⟨hsound, rfl, rfl⟩
  · rw [if_neg hknown, hmark]
    cases ways with
    | nil =>
      obtain ⟨after, heq, hback, hmemory⟩ := h.of_nil hmark hsound
      rw [heq]
      refine ⟨?_, rfl, hback⟩
      intro other hother
      rcases Memo.mem_insert_iff.mp hother with rfl | hother
      · exact hstate.mpr rfl
      · exact hmemory other hother
    | cons way rest =>
      obtain ⟨after, heq, hcaptures, hmemory⟩ := h.of_cons hmark hsound
      rw [heq]
      exact ⟨hmemory, rfl, hcaptures⟩

end Attempt

namespace Search

open Attempt

/-! ## Hopeless states -/

/-- A search recalls only what is in its memory. -/
def Honest (s : Search) : Prop :=
  ∀ failed state, s.recalls failed state = true → state ∈ failed

/-- A state from which a message cannot be read to its end, whatever the path that led to it. -/
def Hopeless (s : Search) (text : List Char) (state : SearchState) : Prop :=
  ∀ (p : Point) (here : Cursor) (sets : Nat) (trace : List Capture), here.IsOn text →
    p.state here.offset sets = state → ¬ s.Derives p here sets trace

variable {s : Search} {text : List Char} {here : Cursor} {start tokens sets mark : Nat}
  {tokenEnd : TokenEnd}

theorem hopeless_state_iff (hon : here.IsOn text) (p : Point) :
    s.Hopeless text (p.state here.offset sets) ↔ s.ways p here sets = [] := by
  constructor
  · intro h
    rw [List.eq_nil_iff_forall_not_mem]
    intro trace htrace
    exact h p here sets trace hon rfl (mem_ways_iff.mp htrace)
  · intro h p' here' sets' trace hon' hstate hderives
    have hplace : here' = here := by
      apply hon'.eq_of_offset_eq hon
      have := congrArg SearchState.offset hstate
      cases p <;> cases p' <;> exact this
    have hsets : sets' = sets := by
      have := congrArg SearchState.sets hstate
      cases p <;> cases p' <;> exact this
    subst hplace hsets
    obtain ⟨trace', h'⟩ := hderives.restart hstate.symm
    have hmem := h'.mem_ways
    rw [h] at hmem
    cases hmem

/-! ## The parts of a round -/

/-- `tokenEnd` follows the ways on from every place that leaves less than `bound` characters. -/
def Continues (s : Search) (text : List Char) (tokenEnd : TokenEnd) (bound : Nat) : Prop :=
  ∀ (here : Cursor) (start tokens sets mark : Nat), here.IsOn text → here.rest.length < bound →
    Follows (s.Hopeless text) mark (tokenEnd start here tokens sets)
      (s.ways (.tokenEnd start tokens) here sets)

theorem Continues.mono {bound bound' : Nat} (h : s.Continues text tokenEnd bound)
    (hle : bound' ≤ bound) : s.Continues text tokenEnd bound' :=
  fun here start tokens sets mark hon hlt =>
    h here start tokens sets mark hon (Nat.lt_of_lt_of_le hlt hle)

theorem token_follows (h : s.Continues text tokenEnd here.rest.length) (hon : here.IsOn text)
    (slot : Slot) :
    Follows (s.Hopeless text) mark (s.token tokenEnd start here slot tokens sets)
      ((s.tokensAt here slot).flatMap fun t =>
        (s.ways (.tokenEnd start (tokens + 1)) t.2 sets).map (t.1 :: ·)) := by
  rw [tokensAt, List.flatMap_assoc]
  apply Follows.firstOf
  intro a ha
  rw [List.flatMap_map]
  apply Follows.firstOf
  intro n hn
  rw [List.mem_filter, decide_eq_true_eq] at hn
  have hmem : (Capture.token a.id slot here.offset (here.advance n).offset (here.rest.take n),
      here.advance n) ∈ s.tokensAt here slot :=
    mem_tokensAt_iff.mpr ⟨a, ha, n, hn.1, hn.2, rfl⟩
  have hshorter := length_rest_lt_of_mem_tokensAt hmem
  apply Follows.marking
  apply Finds.restoring
  apply Finds.recording
  exact (h _ start (tokens + 1) sets (mark + 1) (hon.advance n) hshorter).finds

theorem setStart_follows (hs : s.Honest) (h : s.Continues text tokenEnd here.rest.length)
    (hon : here.IsOn text) :
    Follows (s.Hopeless text) mark (s.setStart tokenEnd here sets) (s.ways .setStart here sets) := by
  refine Finds.unlessKnown (fun failed => hs failed _) (hopeless_state_iff hon .setStart) ?_
  rw [ways_setStart]
  exact (token_follows h hon .leading).finds

theorem setEnd_follows (hs : s.Honest) (h : s.Continues text tokenEnd here.rest.length)
    (hon : here.IsOn text) :
    Follows (s.Hopeless text) mark (s.setEnd tokenEnd start here sets)
      (s.ways (.setEnd start) here sets) := by
  refine Finds.unlessKnown (fun failed => hs failed _)
    (hopeless_state_iff hon (.setEnd start)) ?_
  rw [ways_setEnd]
  apply Finds.recording
  apply Follows.finds
  apply Follows.orElse
  · split
    · exact setStart_follows hs h hon
    · exact Follows.never
  · split
    · exact Follows.done
    · exact Follows.never

theorem holdEnd_follows (hs : s.Honest) (h : s.Continues text tokenEnd here.rest.length)
    (hon : here.IsOn text) :
    Follows (s.Hopeless text) mark (s.holdEnd tokenEnd start here sets)
      (s.ways (.holdEnd start) here sets) := by
  refine Finds.unlessKnown (fun failed => hs failed _)
    (hopeless_state_iff hon (.holdEnd start)) ?_
  rw [ways_holdEnd]
  -- the repeat digit comes last, and is only taken back when the state fails
  apply Finds.orElse (setEnd_follows hs h hon)
  cases s.limits.repeatDigit? here.rest with
  | none => exact Follows.never.finds
  | some count =>
    have hnext := h.mono here.length_rest_next_le
    exact Finds.recording (setEnd_follows hs hnext (hon.advance 1)).finds _

theorem tokenEndRound_follows (hs : s.Honest) (h : s.Continues text tokenEnd here.rest.length)
    (hon : here.IsOn text) :
    Follows (s.Hopeless text) mark (s.tokenEndRound tokenEnd start here tokens sets)
      (s.ways (.tokenEnd start tokens) here sets) := by
  have hnext := h.mono here.length_rest_next_le
  refine Finds.unlessKnown (fun failed => hs failed _)
    (hopeless_state_iff hon (.tokenEnd start tokens)) ?_
  rw [ways_tokenEnd]
  apply Follows.finds
  apply Follows.orElse
  · split
    · exact token_follows hnext (hon.advance 1) .additional
    · exact Follows.never
  · apply Follows.orElse
    · split
      · -- the hold marker is taken back to the mark that the round began with
        exact (Finds.recording (holdEnd_follows hs hnext (hon.advance 1)).finds _).restoring
      · exact Follows.never
    · exact holdEnd_follows hs h hon

/-! ## All rounds -/

/-- **The rounds suffice.**  Each round leaves less of the message, so as many rounds as characters
are left follow all ways on. -/
theorem tokenEnd_follows (hs : s.Honest) (text : List Char) (rounds : Nat) :
    s.Continues text (s.tokenEnd rounds) rounds := by
  induction rounds with
  | zero =>
    intro here start tokens sets _ _ hlt
    exact absurd hlt (Nat.not_lt_zero _)
  | succ rounds ih =>
    intro here start tokens sets mark hon hlt
    exact tokenEndRound_follows hs (ih.mono (Nat.le_of_lt_succ hlt)) hon

theorem derivations_nil (s : Search) : s.derivations [] = [] := by
  rw [derivations, ways_setStart, List.flatMap_eq_nil_iff]
  intro t ht
  exact absurd (length_rest_lt_of_mem_tokensAt ht) (Nat.not_lt_zero _)

/-- **A search finds the first way**, whatever it recalls of the states that failed. -/
theorem captures?_eq_head? (hs : s.Honest) (text : List Char) :
    s.captures? text = (s.derivations text).head? := by
  rw [captures?]
  split
  · rename_i hempty
    rw [hempty, derivations_nil]
    rfl
  · have hfollows : Follows (s.Hopeless text) 0 (s.setStart (s.tokenEnd text.length) ⟨0, text⟩ 0)
        (s.derivations text) :=
      setStart_follows hs (tokenEnd_follows hs text text.length) (Cursor.isOn_start text)
    obtain ⟨_, hok, hcaptures⟩ :=
      hfollows .start rfl fun state hmem => absurd hmem Std.TreeSet.not_mem_emptyc
    generalize s.setStart (s.tokenEnd text.length) ⟨0, text⟩ 0 .start = result at hok hcaptures
    obtain ⟨ok, trail⟩ := result
    cases hways : s.derivations text with
    | nil =>
      rw [hways] at hok
      cases hok
      rfl
    | cons way rest =>
      rw [hways] at hok hcaptures
      cases hok
      show some trail.captures.reverse = some way
      have hrecorded : trail.captures = way.reverse ++ [] := hcaptures
      rw [hrecorded, List.append_nil, List.reverse_reverse]

end Search

end ChatPad
