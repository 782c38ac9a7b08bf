import ChatPad.Proofs.Fragment.Caseless
import ChatPad.Proofs.Search.Ways

/-!
# A search that case does not matter to

If case does not matter to the fragments of a search, it takes the same ways through a text and
through its lower case.  What is recorded on a way differs in the words only, which are cut from the
text as it is (`Search.Caseless.ways_lowered`).
-/

namespace ChatPad

/-- The capture with its word in lower case. -/
def Capture.lowered : Capture → Capture
  | .token alternative slot start stop word =>
    .token alternative slot start stop (word.map Char.toLower)
  | .hold offset => .hold offset
  | .times offset count => .times offset count
  | .set start stop => .set start stop

namespace Cursor

/-- The same place in the lower case of the message. -/
def lowered (here : Cursor) : Cursor := ⟨here.offset, here.rest.map Char.toLower⟩

theorem advance_lowered (here : Cursor) (count : Nat) :
    here.lowered.advance count = (here.advance count).lowered := by
  rw [advance_eq, advance_eq]
  simp only [lowered, ← List.map_take, ← List.map_drop, Text.byteLength_toLower]

theorem head?_rest_lowered {c : Char} (hc : Text.isAlphabetic c = false) (here : Cursor) :
    here.lowered.rest.head? = some c ↔ here.rest.head? = some c :=
  Text.head?_toLower_eq_some_iff hc here.rest

theorem rest_lowered_eq_nil_iff (here : Cursor) : here.lowered.rest = [] ↔ here.rest = [] :=
  List.map_eq_nil_iff

end Cursor

theorem Limits.repeatDigit?_toLower (limits : Limits) (text : List Char) :
    limits.repeatDigit? (text.map Char.toLower) = limits.repeatDigit? text := by
  cases text with
  | nil => rfl
  | cons c rest =>
    rw [List.map_cons, repeatDigit?, repeatDigit?]
    cases hdigit : Text.isDigit c with
    | true => rw [Text.toLower_of_isDigit hdigit, hdigit]
    | false => simp [Text.isDigit_toLower, hdigit]

namespace Search

/-- Which alternatives are tried does not depend on case, and neither does where their tokens end. -/
structure Caseless (s : Search) : Prop where
  candidates : ∀ text : List Char, s.candidates (text.map Char.toLower) = s.candidates text
  fragments : ∀ text, ∀ a ∈ s.candidates text, a.fragment.Caseless

/-- What is behind a guard is mapped there. -/
theorem guarded_map {α β : Type} {c c' : Prop} [Decidable c] [Decidable c'] (hc : c' ↔ c)
    {l : List α} {l' : List β} {f : α → β} (hl : l' = l.map f) :
    (if c' then l' else []) = (if c then l else []).map f := by
  by_cases h : c
  · rw [if_pos h, if_pos (hc.mpr h), hl]
  · rw [if_neg h, if_neg (mt hc.mp h), List.map_nil]

theorem map_cons_lowered (capture : Capture) (traces : List (List Capture)) :
    (traces.map (List.map Capture.lowered)).map (capture.lowered :: ·) =
      (traces.map (capture :: ·)).map (List.map Capture.lowered) := by
  rw [List.map_map, List.map_map]
  rfl

namespace Caseless

variable {s : Search} (hs : s.Caseless)

include hs

/-- The same tokens can stand at a place. -/
theorem tokensAt_lowered (here : Cursor) (slot : Slot) : s.tokensAt here.lowered slot =
    (s.tokensAt here slot).map fun t => (t.1.lowered, t.2.lowered) := by
  rw [tokensAt, tokensAt, List.map_flatMap]
  have hcandidates : s.candidates here.lowered.rest = s.candidates here.rest :=
    hs.candidates here.rest
  rw [hcandidates]
  refine List.flatMap_congr fun a ha => ?_
  have hends : a.fragment.ends here.lowered.rest = a.fragment.ends here.rest :=
    (hs.fragments _ a ha).ends_toLower here.rest
  rw [hends, List.map_map]
  refine List.map_congr_left fun n _ => ?_
  rw [Cursor.advance_lowered]
  simp only [Function.comp_apply, Cursor.lowered, Capture.lowered, List.map_take]

/-- If the ways after each token are the same in lower case, so are the ways from before it. -/
theorem flatMap_tokensAt_lowered {p : Point} {here : Cursor} {slot : Slot} {sets : Nat}
    (hafter : ∀ t ∈ s.tokensAt here slot,
      s.ways p t.2.lowered sets = (s.ways p t.2 sets).map (List.map Capture.lowered)) :
    ((s.tokensAt here.lowered slot).flatMap fun t => (s.ways p t.2 sets).map (t.1 :: ·)) =
      ((s.tokensAt here slot).flatMap fun t => (s.ways p t.2 sets).map (t.1 :: ·)).map
        (List.map Capture.lowered) := by
  rw [hs.tokensAt_lowered, List.flatMap_map, List.map_flatMap]
  refine List.flatMap_congr fun t ht => ?_
  rw [hafter t ht, map_cons_lowered]

/-- **The same ways lead through the lower case of a message.**  This goes along with the search: each
guard holds in both cases or in neither. -/
theorem ways_lowered : ∀ (p : Point) (here : Cursor) (sets : Nat),
    s.ways p here.lowered sets = (s.ways p here sets).map (List.map Capture.lowered)
  | .setStart, here, sets => by
    rw [ways_setStart, ways_setStart]
    refine hs.flatMap_tokensAt_lowered fun t ht => ?_
    have := length_rest_lt_of_mem_tokensAt ht
    exact ways_lowered (.tokenEnd here.offset 1) t.2 sets
  | .tokenEnd start tokens, here, sets => by
    have hnext := here.length_rest_next_le
    have hnextLowered : here.lowered.next = here.next.lowered := here.advance_lowered 1
    rw [ways_tokenEnd, ways_tokenEnd, hnextLowered, List.map_append, List.map_append]
    refine congrArg₂ _ ?_ (congrArg₂ _ ?_ ?_)
    · refine guarded_map (and_congr_right fun _ => here.head?_rest_lowered (by decide)) ?_
      refine hs.flatMap_tokensAt_lowered fun t ht => ?_
      have := length_rest_lt_of_mem_tokensAt ht
      exact ways_lowered (.tokenEnd start (tokens + 1)) t.2 sets
    · refine guarded_map (and_congr_right fun _ => here.head?_rest_lowered (by decide)) ?_
      rw [ways_lowered (.holdEnd start) here.next sets]
      exact map_cons_lowered (.hold here.offset) _
    · exact ways_lowered (.holdEnd start) here sets
  | .holdEnd start, here, sets => by
    have hnext := here.length_rest_next_le
    have hnextLowered : here.lowered.next = here.next.lowered := here.advance_lowered 1
    have hcount : s.limits.repeatDigit? here.lowered.rest = s.limits.repeatDigit? here.rest :=
      s.limits.repeatDigit?_toLower here.rest
    rw [ways_holdEnd, ways_holdEnd, hcount, hnextLowered, List.map_append]
    refine congrArg₂ _ (ways_lowered (.setEnd start) here sets) ?_
    cases s.limits.repeatDigit? here.rest with
    | none => rfl
    | some count =>
      rw [ways_lowered (.setEnd start) here.next sets]
      exact map_cons_lowered (.times here.offset count) _
  | .setEnd start, here, sets => by
    have hend := here.rest_lowered_eq_nil_iff
    rw [ways_setEnd, ways_setEnd, ← map_cons_lowered]
    refine congrArg _ ?_
    rw [List.map_append]
    refine congrArg₂ _ ?_ ?_
    · exact guarded_map (and_congr_right fun _ => not_congr hend)
        (ways_lowered .setStart here (sets + 1))
    · exact guarded_map hend rfl
termination_by p here => 4 * here.rest.length + p.rank
decreasing_by
  all_goals simp only [Point.rank]
  all_goals omega

/-- **All ways to read a message are the same in lower case.** -/
theorem derivations_toLower (text : List Char) :
    s.derivations (text.map Char.toLower) = (s.derivations text).map (List.map Capture.lowered) :=
  hs.ways_lowered .setStart ⟨0, text⟩ 0

end Caseless

end Search

end ChatPad
