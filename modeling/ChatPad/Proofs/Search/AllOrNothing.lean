import ChatPad.Proofs.Search.Shortcuts

/-!
# A search takes back what leads nowhere

The parts of a search call each other, record captures before they know whether these lead anywhere, and
go back over them at different places.  Seen from outside, each part is all or nothing
(`Attempt.IsAllOrNothing`): a part that fails leaves the captures as it has found them, a part that
succeeds adds those of one way on, and what a part remembers is hopeless in both cases.  This needs a
memory that was sound before, and no more: what has been captured on the way plays no role.

* `Attempt.Follows.isAllOrNothing`: what follows a list of ways is all or nothing;
* `Grammar.search_isAllOrNothing`: so is each part of the search of a grammar, at every place of a text.
-/

namespace ChatPad

/-- **An attempt that is all or nothing**, where `leads` describes the ways on.  With a memory of hopeless
states, it fails only if there is no way on, and then leaves the captures as they were; it succeeds only
by adding the captures of a way on; and it remembers only hopeless states. -/
def Attempt.IsAllOrNothing (hopeless : SearchState → Prop) (leads : List Capture → Prop)
    (attempt : Attempt) : Prop :=
  ∀ trail : Trail, (∀ state ∈ trail.failed, hopeless state) →
    ((attempt trail).1 = false →
      (attempt trail).2.captures = trail.captures ∧ ∀ trace, ¬ leads trace) ∧
    ((attempt trail).1 = true →
      ∃ trace, leads trace ∧ (attempt trail).2.captures = trace.reverse ++ trail.captures) ∧
    ∀ state ∈ (attempt trail).2.failed, hopeless state

theorem Attempt.Follows.isAllOrNothing {hopeless : SearchState → Prop} {leads : List Capture → Prop}
    {attempt : Attempt} {ways : List (List Capture)} (h : ∀ mark, Follows hopeless mark attempt ways)
    (hways : ∀ trace, trace ∈ ways ↔ leads trace) : attempt.IsAllOrNothing hopeless leads := by
  intro trail hsound
  obtain ⟨hmemory, hok, hcaptures⟩ := h trail.count trail rfl hsound
  cases ways with
  | nil =>
    refine ⟨fun _ => ⟨hcaptures, ?_⟩, ?_, hmemory⟩
    · intro trace htrace
      simpa using (hways trace).mpr htrace
    · intro htrue
      rw [hok] at htrue
      cases htrue
  | cons way later =>
    refine ⟨?_, fun _ => ⟨way, (hways way).mp List.mem_cons_self, hcaptures⟩, hmemory⟩
    intro hfalse
    rw [hok] at hfalse
    cases hfalse

namespace Search

variable {s : Search} {text : List Char} {here : Cursor} {tokenEnd : TokenEnd}

/-- A token, and then a way on from its end. -/
def TokenLeads (s : Search) (start : Nat) (here : Cursor) (slot : Slot) (tokens sets : Nat)
    (trace : List Capture) : Prop :=
  ∃ t ∈ s.tokensAt here slot, ∃ rest, s.Derives (.tokenEnd start (tokens + 1)) t.2 sets rest ∧
    trace = t.1 :: rest

theorem mem_flatMap_tokensAt_iff {start : Nat} {slot : Slot} {tokens sets : Nat}
    (trace : List Capture) : (trace ∈ (s.tokensAt here slot).flatMap fun t =>
        (s.ways (.tokenEnd start (tokens + 1)) t.2 sets).map (t.1 :: ·)) ↔
      s.TokenLeads start here slot tokens sets trace := by
  simp only [TokenLeads, List.mem_flatMap, List.mem_map, mem_ways_iff, eq_comm]

end Search

namespace Grammar

open Search

/-- **Each part of a search is all or nothing.**  Whatever was captured before, and whatever hopeless
states are remembered, at every place of a text: beginning a set, trying the tokens at a place, going on
after a token, after a hold marker and at the end of a set.  As many rounds as characters are left are
enough for all of them. -/
theorem search_isAllOrNothing (g : Grammar) {text : List Char} {here : Cursor} (hon : here.IsOn text)
    {rounds : Nat} (hrounds : here.rest.length ≤ rounds) (start tokens sets : Nat) (slot : Slot) :
    let s := g.search
    let after := s.tokenEnd rounds
    let hopeless := s.Hopeless text
    (Attempt.IsAllOrNothing hopeless (s.Derives .setStart here sets) (s.setStart after here sets)) ∧
    (Attempt.IsAllOrNothing hopeless (s.TokenLeads start here slot tokens sets)
      (s.token after start here slot tokens sets)) ∧
    (Attempt.IsAllOrNothing hopeless (s.Derives (.tokenEnd start tokens) here sets)
      (s.tokenEnd (rounds + 1) start here tokens sets)) ∧
    (Attempt.IsAllOrNothing hopeless (s.Derives (.holdEnd start) here sets)
      (s.holdEnd after start here sets)) ∧
    (Attempt.IsAllOrNothing hopeless (s.Derives (.setEnd start) here sets)
      (s.setEnd after start here sets)) := by
  intro s after hopeless
  have hs : s.Honest := g.search_honest
  have hafter : s.Continues text after here.rest.length :=
    (tokenEnd_follows hs text rounds).mono hrounds
  refine ⟨?_, ?_, ?_, ?_, ?_⟩
  · exact Attempt.Follows.isAllOrNothing (fun mark => setStart_follows hs hafter hon)
      fun trace => mem_ways_iff
  · exact Attempt.Follows.isAllOrNothing (fun mark => token_follows hafter hon slot)
      mem_flatMap_tokensAt_iff
  · exact Attempt.Follows.isAllOrNothing (fun mark => tokenEndRound_follows hs hafter hon)
      fun trace => mem_ways_iff
  · exact Attempt.Follows.isAllOrNothing (fun mark => holdEnd_follows hs hafter hon)
      fun trace => mem_ways_iff
  · exact Attempt.Follows.isAllOrNothing (fun mark => setEnd_follows hs hafter hon)
      fun trace => mem_ways_iff

/-- With the buttons `a` and `ab`, the message `aab` is read as two sets after `a` was tried twice.  That
leaves the end of a second `a` in memory, where another attempt gives up at once and takes nothing
away. -/
theorem search_isAllOrNothing_remembered :
    let definitions : List Definition := [.button "a" "a" true, .button "ab" "ab" true]
    let g : Grammar := ⟨alternativesOf definitions, .ofAlternatives (alternativesOf definitions),
      { sequenceLength := 2 }⟩
    let text := "aab".toList
    let after := g.search.tokenEnd 3
    let trail := (g.search.setStart after ⟨0, text⟩ 0 .start).2
    trail.captures.length = 4 ∧ ⟨.setEnd, 2, 0, 1⟩ ∈ trail.failed ∧
      g.search.Hopeless text ⟨.setEnd, 2, 0, 1⟩ ∧
      (g.search.setEnd after 1 ⟨2, ['b']⟩ 1 trail).1 = false ∧
      (g.search.setEnd after 1 ⟨2, ['b']⟩ 1 trail).2.captures = trail.captures := by
  intro definitions g text after trail
  have hstart : Cursor.IsOn text ⟨0, text⟩ := Cursor.isOn_start text
  have hend : Cursor.IsOn text ⟨2, ['b']⟩ := ⟨['a', 'a'], rfl, rfl⟩
  have hrounds : text.length ≤ 3 := by decide
  have hround : ['b'].length ≤ 3 := by decide
  have hset : Attempt.IsAllOrNothing (g.search.Hopeless text) (g.search.Derives .setStart ⟨0, text⟩ 0)
      (g.search.setStart after ⟨0, text⟩ 0) :=
    (search_isAllOrNothing g hstart hrounds 0 0 0 .leading).1
  have hmemory : ∀ state ∈ trail.failed, g.search.Hopeless text state :=
    (hset .start fun state hmem => absurd hmem Std.TreeSet.not_mem_emptyc).2.2
  have hsetEnd : Attempt.IsAllOrNothing (g.search.Hopeless text)
      (g.search.Derives (.setEnd 1) ⟨2, ['b']⟩ 1) (g.search.setEnd after 1 ⟨2, ['b']⟩ 1) :=
    (search_isAllOrNothing g hend hround 1 1 1 .leading).2.2.2.2
  have hremembered : ⟨.setEnd, 2, 0, 1⟩ ∈ trail.failed :=
    Std.TreeSet.mem_iff_contains.mpr (by decide +kernel)
  have hfails : (g.search.setEnd after 1 ⟨2, ['b']⟩ 1 trail).1 = false := by decide +kernel
  have hcount : trail.captures.length = 4 := by decide +kernel
  exact ⟨hcount, hremembered, hmemory _ hremembered, hfails, ((hsetEnd trail hmemory).1 hfails).1⟩

end Grammar

end ChatPad
