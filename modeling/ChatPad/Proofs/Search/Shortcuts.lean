import ChatPad.Proofs.Grammar.Candidates
import ChatPad.Proofs.Search.Memory

/-!
# Two shortcuts of a search

The search for a message leaves work out in two places: it does not enter a state again that failed,
and it looks alternatives up by the next character instead of trying them all.  Both can be switched
off, and neither changes the answer.

* `Search.forgetful` recalls nothing, `Grammar.exhaustive` tries every alternative everywhere;
* `Grammar.derivations_search`: the index leaves out no way and keeps the order of the ways.
-/

namespace ChatPad

namespace Search

/-- The same search without its memory: no state counts as failed. -/
def forgetful (s : Search) : Search := { s with recalls := fun _ _ => false }

theorem forgetful_honest (s : Search) : s.forgetful.Honest :=
  fun _ _ h => absurd h Bool.false_ne_true

/-- The ways of a search depend on its limits and on the tokens that it tries. -/
theorem ways_congr {s s' : Search} (hlimits : s.limits = s'.limits)
    (htokens : ∀ here slot, s.tokensAt here slot = s'.tokensAt here slot) :
    ∀ (p : Point) (here : Cursor) (sets : Nat), s.ways p here sets = s'.ways p here sets
  | .setStart, here, sets => by
    rw [ways_setStart, ways_setStart, htokens]
    refine List.flatMap_congr fun t ht => ?_
    have := length_rest_lt_of_mem_tokensAt ht
    rw [ways_congr hlimits htokens]
  | .tokenEnd start tokens, here, sets => by
    have hnext := here.length_rest_next_le
    have hmore : ((s'.tokensAt here.next .additional).flatMap fun t =>
          (s.ways (.tokenEnd start (tokens + 1)) t.2 sets).map (t.1 :: ·)) =
        (s'.tokensAt here.next .additional).flatMap fun t =>
          (s'.ways (.tokenEnd start (tokens + 1)) t.2 sets).map (t.1 :: ·) := by
      refine List.flatMap_congr fun t ht => ?_
      have := length_rest_lt_of_mem_tokensAt ht
      rw [ways_congr hlimits htokens]
    rw [ways_tokenEnd, ways_tokenEnd, htokens, hmore, hlimits,
      ways_congr hlimits htokens (.holdEnd start) here.next,
      ways_congr hlimits htokens (.holdEnd start) here]
  | .holdEnd start, here, sets => by
    have hnext := here.length_rest_next_le
    rw [ways_holdEnd, ways_holdEnd, hlimits,
      ways_congr hlimits htokens (.setEnd start) here.next,
      ways_congr hlimits htokens (.setEnd start) here]
  | .setEnd start, here, sets => by
    rw [ways_setEnd, ways_setEnd, hlimits, ways_congr hlimits htokens .setStart here]
termination_by p here => 4 * here.rest.length + p.rank
decreasing_by
  all_goals simp only [Point.rank]
  all_goals omega

theorem derivations_forgetful (s : Search) (text : List Char) :
    s.forgetful.derivations text = s.derivations text := by
  have hlimits : s.forgetful.limits = s.limits := rfl
  have htokens (here : Cursor) (slot : Slot) :
      s.forgetful.tokensAt here slot = s.tokensAt here slot := rfl
  exact ways_congr hlimits htokens .setStart ⟨0, text⟩ 0

end Search

namespace Grammar

/-- The search that tries every alternative at every place, in the order of registration. -/
def exhaustive (g : Grammar) : Search := { g.search with candidates := fun _ => g.alternatives }

theorem search_honest (g : Grammar) : g.search.Honest :=
  fun _ _ h => Std.TreeSet.mem_iff_contains.mpr h

theorem exhaustive_honest (g : Grammar) : g.exhaustive.Honest := g.search_honest

theorem flatMap_filter_of_eq_nil {α β : Type} (p : α → Bool) (f : α → List β) (l : List α)
    (h : ∀ a ∈ l, p a = false → f a = []) : (l.filter p).flatMap f = l.flatMap f := by
  induction l with
  | nil => rfl
  | cons a l ih =>
    have hl := ih fun b hb => h b (List.mem_cons_of_mem a hb)
    cases ha : p a with
    | true => rw [List.filter_cons_of_pos ha, List.flatMap_cons, List.flatMap_cons, hl]
    | false =>
      rw [List.filter_cons_of_neg (by simp [ha]), List.flatMap_cons, hl,
        h a List.mem_cons_self ha, List.nil_append]

variable {definitions : List Definition} {limits : Limits} {g : Grammar}

theorem limits_exhaustive (h : compile definitions limits = .ok g) :
    g.exhaustive.limits = limits := by
  obtain ⟨_, _, _, rfl⟩ := compile_eq_ok_iff.mp h
  rfl

/-- The index leaves out no token and keeps the order in which tokens are tried. -/
theorem tokensAt_search (h : compile definitions limits = .ok g) (here : Cursor) (slot : Slot) :
    g.search.tokensAt here slot = g.exhaustive.tokensAt here slot := by
  show (g.candidatesAt here.rest).flatMap _ = g.alternatives.flatMap _
  rw [candidatesAt_eq_filter h]
  apply flatMap_filter_of_eq_nil
  intro a _ hworth
  rw [List.map_eq_nil_iff, List.filter_eq_nil_iff]
  intro n hn
  rw [Fragment.worthTrying_of_mem_ends hn] at hworth
  cases hworth

/-- **The index leaves out no way to read a message and keeps the order of the ways.** -/
theorem derivations_search (h : compile definitions limits = .ok g) (text : List Char) :
    g.search.derivations text = g.exhaustive.derivations text := by
  have hlimits : g.search.limits = g.exhaustive.limits := rfl
  exact Search.ways_congr hlimits (tokensAt_search h) .setStart ⟨0, text⟩ 0

/-- **The index is transparent.**  A compiled grammar finds what the search without an index finds;
the alternatives that the index offers ascend strictly, and none is missing that could take a
character. -/
theorem captures?_index_transparent (h : compile definitions limits = .ok g) (text : List Char) :
    g.captures? text = g.exhaustive.captures? text ∧
    ∀ rest, (g.candidatesAt rest).Pairwise (fun a b => a.id < b.id) ∧
      ∀ a ∈ g.alternatives, ∀ n ∈ a.fragment.ends rest, 0 < n → a ∈ g.candidatesAt rest := by
  constructor
  · rw [captures?, Search.captures?_eq_head? g.search_honest, derivations_search h,
      ← Search.captures?_eq_head? g.exhaustive_honest]
  · intro rest
    exact ⟨candidatesAt_ascending h rest, fun a ha n hn _ => mem_candidatesAt_of_mem_ends h ha hn⟩

/-- An alternative that can be empty is offered everywhere, and in its place between two others. -/
theorem captures?_index_transparent_optional :
    let mark : Definition := ⟨.optional (.char '!'), fun _ => none, "mark"⟩
    let definitions : List Definition := [.button "up" "UP" true, mark, .analog "l" "L" false]
    let g : Grammar := ⟨alternativesOf definitions, .ofAlternatives (alternativesOf definitions), {}⟩
    compile definitions {} = .ok g ∧
      g.captures? "Up+l.5".toList = g.exhaustive.captures? "Up+l.5".toList ∧
      (g.candidatesAt "!".toList).Pairwise (fun a b => a.id < b.id) ∧
      ⟨1, mark.fragment, mark.description⟩ ∈ g.candidatesAt "!".toList := by
  intro mark definitions g
  have hcompile : compile definitions {} = .ok g := rfl
  obtain ⟨hsame, hindex⟩ := captures?_index_transparent hcompile "Up+l.5".toList
  obtain ⟨hascending, hcomplete⟩ := hindex "!".toList
  have hmark : ⟨1, mark.fragment, mark.description⟩ ∈ g.alternatives :=
    List.mem_cons_of_mem _ List.mem_cons_self
  have hend : 1 ∈ mark.fragment.ends "!".toList := by decide
  exact ⟨hcompile, hsame, hascending, hcomplete _ hmark 1 hend Nat.one_pos⟩

end Grammar

end ChatPad
