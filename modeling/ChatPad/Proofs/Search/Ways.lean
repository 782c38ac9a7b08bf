import ChatPad.Grammar.Search
import ChatPad.Proofs.Fragment.Language

/-!
# All ways to read a message

A search stops at the first way to read a message.  `Search.ways` lists all of them, in the order in
which a search without any shortcut comes across them: from every point of the search, each way is
the list of captures that it still records.  `Search.Derives` describes a single way, without an
order and without a bound on its length.

* `Search.mem_ways_iff`: the list holds exactly the ways that can be derived;
* `Search.Derives.restart`: whether there is a way depends on the search state alone, and not on
  where the current set began.
-/

namespace ChatPad

/-! ## Places of a message -/

/-- `here` is a place of the message `text`. -/
def Cursor.IsOn (text : List Char) (here : Cursor) : Prop :=
  ∃ before, text = before ++ here.rest ∧ here.offset = Text.byteLength before

theorem Cursor.isOn_start (text : List Char) : Cursor.IsOn text ⟨0, text⟩ :=
  ⟨[], rfl, rfl⟩

theorem Cursor.IsOn.advance {text : List Char} {here : Cursor} (h : here.IsOn text) (count : Nat) :
    (here.advance count).IsOn text := by
  obtain ⟨before, htext, hoffset⟩ := h
  rw [advance_eq]
  refine ⟨before ++ here.rest.take count, ?_, ?_⟩
  · rw [List.append_assoc, List.take_append_drop]
    exact htext
  · rw [Text.byteLength_append, ← hoffset]

/-- An offset belongs to one place of a message only. -/
theorem Cursor.IsOn.eq_of_offset_eq {text : List Char} {here there : Cursor} (h : here.IsOn text)
    (h' : there.IsOn text) (hoffset : here.offset = there.offset) : here = there := by
  obtain ⟨before, htext, hhere⟩ := h
  obtain ⟨before', htext', hthere⟩ := h'
  obtain ⟨_, hrest⟩ := Text.append_inj_of_byteLength_eq (htext.symm.trans htext')
    (by rw [← hhere, ← hthere, hoffset])
  cases here
  cases there
  simp_all

theorem Cursor.length_rest_next_le (here : Cursor) : here.next.rest.length ≤ here.rest.length := by
  rw [next, advance_eq, List.length_drop]
  exact Nat.sub_le _ _

/-! ## Points of a search -/

/-- What a search has to do next. -/
inductive Point where
  | setStart
  /-- To go on after a token, of which there are `tokens` in the set that began at `start`. -/
  | tokenEnd (start tokens : Nat)
  | holdEnd (start : Nat)
  | setEnd (start : Nat)

namespace Point

/-- The state that is remembered if a search fails from this point. -/
def state (offset sets : Nat) : Point → SearchState
  | setStart => ⟨.setStart, offset, 0, sets⟩
  | tokenEnd _ tokens => ⟨.tokenEnd, offset, tokens, sets⟩
  | holdEnd _ => ⟨.holdEnd, offset, 0, sets⟩
  | setEnd _ => ⟨.setEnd, offset, 0, sets⟩

/-- How many points can follow this one at the same place. -/
def rank : Point → Nat
  | setStart => 0
  | setEnd _ => 1
  | holdEnd _ => 2
  | tokenEnd _ _ => 3

end Point

namespace Search

variable {s : Search} {here : Cursor} {slot : Slot} {sets : Nat} {trace : List Capture}

/-! ## Tokens at a place -/

/-- The tokens that can stand at a place, in the order in which they are tried: what each of them
records, and where it ends. -/
def tokensAt (s : Search) (here : Cursor) (slot : Slot) : List (Capture × Cursor) :=
  (s.candidates here.rest).flatMap fun a =>
    ((a.fragment.ends here.rest).filter (0 < ·)).map fun n =>
      (.token a.id slot here.offset (here.advance n).offset (here.rest.take n), here.advance n)

theorem mem_tokensAt_iff {t : Capture × Cursor} : t ∈ s.tokensAt here slot ↔
    ∃ a ∈ s.candidates here.rest, ∃ n ∈ a.fragment.ends here.rest, 0 < n ∧
      t = (.token a.id slot here.offset (here.advance n).offset (here.rest.take n),
        here.advance n) := by
  rw [tokensAt, List.mem_flatMap]
  refine exists_congr fun a => and_congr_right fun _ => ?_
  rw [List.mem_map]
  refine exists_congr fun n => ?_
  rw [List.mem_filter, decide_eq_true_eq, and_assoc, eq_comm]

/-- A token is not empty, so it leaves less of the message. -/
theorem length_rest_lt_of_mem_tokensAt {t : Capture × Cursor} (h : t ∈ s.tokensAt here slot) :
    t.2.rest.length < here.rest.length := by
  obtain ⟨a, _, n, hn, hpos, rfl⟩ := mem_tokensAt_iff.mp h
  have hle := ((Fragment.mem_ends_iff _ _ _).mp hn).1
  rw [Cursor.advance_eq, List.length_drop]
  omega

/-! ## The list of all ways -/

/-- All ways to read the rest of a message, from a point of the search at a place, with `sets` sets
before the current one.  Each way is the list of captures that it records, first to last. -/
def ways (s : Search) : Point → Cursor → Nat → List (List Capture)
  | .setStart, here, sets =>
    (s.tokensAt here .leading).attach.flatMap fun ⟨t, _⟩ =>
      (s.ways (.tokenEnd here.offset 1) t.2 sets).map (t.1 :: ·)
  | .tokenEnd start tokens, here, sets =>
    (if tokens < s.limits.setLength ∧ here.rest.head? = some '+' then
      (s.tokensAt here.next .additional).attach.flatMap fun ⟨t, _⟩ =>
        (s.ways (.tokenEnd start (tokens + 1)) t.2 sets).map (t.1 :: ·)
    else []) ++
    ((if s.limits.hold ∧ here.rest.head? = some '-' then
      (s.ways (.holdEnd start) here.next sets).map (.hold here.offset :: ·)
    else []) ++
    s.ways (.holdEnd start) here sets)
  | .holdEnd start, here, sets =>
    s.ways (.setEnd start) here sets ++
    match s.limits.repeatDigit? here.rest with
    | some count => (s.ways (.setEnd start) here.next sets).map (.times here.offset count :: ·)
    | none => []
  | .setEnd start, here, sets =>
    ((if sets + 1 < s.limits.sequenceLength ∧ here.rest ≠ [] then s.ways .setStart here (sets + 1)
    else []) ++
    (if here.rest = [] then [[]] else [])).map (.set start here.offset :: ·)
termination_by p here => 4 * here.rest.length + p.rank
decreasing_by
  all_goals simp only [Point.rank]
  · have := length_rest_lt_of_mem_tokensAt ‹_›
    omega
  · have := length_rest_lt_of_mem_tokensAt ‹_›
    have := here.length_rest_next_le
    omega
  · have := here.length_rest_next_le
    omega
  · omega
  · omega
  · have := here.length_rest_next_le
    omega
  · omega

/-- All ways to read a message. -/
def derivations (s : Search) (text : List Char) : List (List Capture) :=
  s.ways .setStart ⟨0, text⟩ 0

theorem ways_setStart (s : Search) (here : Cursor) (sets : Nat) :
    s.ways .setStart here sets = (s.tokensAt here .leading).flatMap fun t =>
      (s.ways (.tokenEnd here.offset 1) t.2 sets).map (t.1 :: ·) := by
  rw [ways, List.flatMap_subtype fun _ _ => rfl, List.unattach_attach]

theorem ways_tokenEnd (s : Search) (start tokens : Nat) (here : Cursor) (sets : Nat) :
    s.ways (.tokenEnd start tokens) here sets =
      (if tokens < s.limits.setLength ∧ here.rest.head? = some '+' then
        (s.tokensAt here.next .additional).flatMap fun t =>
          (s.ways (.tokenEnd start (tokens + 1)) t.2 sets).map (t.1 :: ·)
      else []) ++
      ((if s.limits.hold ∧ here.rest.head? = some '-' then
        (s.ways (.holdEnd start) here.next sets).map (.hold here.offset :: ·)
      else []) ++
      s.ways (.holdEnd start) here sets) := by
  rw [ways, List.flatMap_subtype fun _ _ => rfl, List.unattach_attach]

theorem ways_holdEnd (s : Search) (start : Nat) (here : Cursor) (sets : Nat) :
    s.ways (.holdEnd start) here sets = s.ways (.setEnd start) here sets ++
      match s.limits.repeatDigit? here.rest with
      | some count => (s.ways (.setEnd start) here.next sets).map (.times here.offset count :: ·)
      | none => [] := by
  rw [ways]

theorem ways_setEnd (s : Search) (start : Nat) (here : Cursor) (sets : Nat) :
    s.ways (.setEnd start) here sets =
      ((if sets + 1 < s.limits.sequenceLength ∧ here.rest ≠ [] then
        s.ways .setStart here (sets + 1)
      else []) ++
      (if here.rest = [] then [[]] else [])).map (.set start here.offset :: ·) := by
  conv_lhs => rw [ways]

/-! ## A single way -/

/-- `s.Derives p here sets trace`: from the point `p` at the place `here`, after `sets` sets, the rest
of the message can be read so that the captures `trace` are recorded. -/
inductive Derives (s : Search) : Point → Cursor → Nat → List Capture → Prop
  | first {here : Cursor} {sets : Nat} {t : Capture × Cursor} {trace : List Capture} :
      t ∈ s.tokensAt here .leading → Derives s (.tokenEnd here.offset 1) t.2 sets trace →
      Derives s .setStart here sets (t.1 :: trace)
  | another {start tokens : Nat} {here : Cursor} {sets : Nat} {t : Capture × Cursor}
      {trace : List Capture} :
      tokens < s.limits.setLength → here.rest.head? = some '+' →
      t ∈ s.tokensAt here.next .additional →
      Derives s (.tokenEnd start (tokens + 1)) t.2 sets trace →
      Derives s (.tokenEnd start tokens) here sets (t.1 :: trace)
  | hold {start tokens : Nat} {here : Cursor} {sets : Nat} {trace : List Capture} :
      s.limits.hold = true → here.rest.head? = some '-' →
      Derives s (.holdEnd start) here.next sets trace →
      Derives s (.tokenEnd start tokens) here sets (.hold here.offset :: trace)
  | noHold {start tokens : Nat} {here : Cursor} {sets : Nat} {trace : List Capture} :
      Derives s (.holdEnd start) here sets trace →
      Derives s (.tokenEnd start tokens) here sets trace
  | noTimes {start : Nat} {here : Cursor} {sets : Nat} {trace : List Capture} :
      Derives s (.setEnd start) here sets trace → Derives s (.holdEnd start) here sets trace
  | times {start count : Nat} {here : Cursor} {sets : Nat} {trace : List Capture} :
      s.limits.repeatDigit? here.rest = some count →
      Derives s (.setEnd start) here.next sets trace →
      Derives s (.holdEnd start) here sets (.times here.offset count :: trace)
  | nextSet {start : Nat} {here : Cursor} {sets : Nat} {trace : List Capture} :
      sets + 1 < s.limits.sequenceLength → here.rest ≠ [] →
      Derives s .setStart here (sets + 1) trace →
      Derives s (.setEnd start) here sets (.set start here.offset :: trace)
  | done {start : Nat} {here : Cursor} {sets : Nat} :
      here.rest = [] → Derives s (.setEnd start) here sets [.set start here.offset]

theorem derives_of_mem_ways (s : Search) : ∀ (p : Point) (here : Cursor) (sets : Nat)
    (trace : List Capture), trace ∈ s.ways p here sets → s.Derives p here sets trace
  | .setStart, here, sets, trace, h => by
    rw [ways_setStart] at h
    obtain ⟨t, ht, hmap⟩ := List.mem_flatMap.mp h
    obtain ⟨rest, hrest, rfl⟩ := List.mem_map.mp hmap
    have := length_rest_lt_of_mem_tokensAt ht
    exact .first ht (derives_of_mem_ways s _ _ _ _ hrest)
  | .tokenEnd start tokens, here, sets, trace, h => by
    have hnext := here.length_rest_next_le
    rw [ways_tokenEnd, List.mem_append, List.mem_append] at h
    rcases h with h | h | h
    · split at h
      · rename_i hplus
        obtain ⟨t, ht, hmap⟩ := List.mem_flatMap.mp h
        obtain ⟨rest, hrest, rfl⟩ := List.mem_map.mp hmap
        have := length_rest_lt_of_mem_tokensAt ht
        exact .another hplus.1 hplus.2 ht (derives_of_mem_ways s _ _ _ _ hrest)
      · cases h
    · split at h
      · rename_i hhold
        obtain ⟨rest, hrest, rfl⟩ := List.mem_map.mp h
        exact .hold hhold.1 hhold.2 (derives_of_mem_ways s _ _ _ _ hrest)
      · cases h
    · exact .noHold (derives_of_mem_ways s _ _ _ _ h)
  | .holdEnd start, here, sets, trace, h => by
    have hnext := here.length_rest_next_le
    rw [ways_holdEnd, List.mem_append] at h
    rcases h with h | h
    · exact .noTimes (derives_of_mem_ways s _ _ _ _ h)
    · split at h
      · rename_i count hcount
        obtain ⟨rest, hrest, rfl⟩ := List.mem_map.mp h
        exact .times hcount (derives_of_mem_ways s _ _ _ _ hrest)
      · cases h
  | .setEnd start, here, sets, trace, h => by
    rw [ways_setEnd] at h
    obtain ⟨rest, hrest, rfl⟩ := List.mem_map.mp h
    rcases List.mem_append.mp hrest with hrest | hrest
    · split at hrest
      · rename_i hmore
        exact .nextSet hmore.1 hmore.2 (derives_of_mem_ways s _ _ _ _ hrest)
      · cases hrest
    · split at hrest
      · rename_i hend
        rw [List.mem_singleton.mp hrest]
        exact .done hend
      · cases hrest
termination_by p here => 4 * here.rest.length + p.rank
decreasing_by
  all_goals simp only [Point.rank]
  all_goals omega

theorem Derives.mem_ways {p : Point} (h : s.Derives p here sets trace) :
    trace ∈ s.ways p here sets := by
  induction h with
  | first ht _ ih =>
    rw [ways_setStart]
    exact List.mem_flatMap.mpr ⟨_, ht, List.mem_map_of_mem ih⟩
  | another hless hplus ht _ ih =>
    rw [ways_tokenEnd, if_pos ⟨hless, hplus⟩]
    exact List.mem_append_left _ (List.mem_flatMap.mpr ⟨_, ht, List.mem_map_of_mem ih⟩)
  | hold hhold hminus _ ih =>
    rw [ways_tokenEnd, if_pos (c := s.limits.hold = true ∧ _) ⟨hhold, hminus⟩]
    exact List.mem_append_right _ (List.mem_append_left _ (List.mem_map_of_mem ih))
  | noHold _ ih =>
    rw [ways_tokenEnd]
    exact List.mem_append_right _ (List.mem_append_right _ ih)
  | noTimes _ ih =>
    rw [ways_holdEnd]
    exact List.mem_append_left _ ih
  | times hcount _ ih =>
    rw [ways_holdEnd, hcount]
    exact List.mem_append_right _ (List.mem_map_of_mem ih)
  | nextSet hless hrest _ ih =>
    rw [ways_setEnd, if_pos ⟨hless, hrest⟩]
    exact List.mem_map_of_mem (List.mem_append_left _ ih)
  | done hrest =>
    rw [ways_setEnd, if_pos (c := _ = []) hrest]
    exact List.mem_map_of_mem (List.mem_append_right _ (List.mem_singleton_self []))

/-- **The list holds exactly the ways that can be derived.** -/
theorem mem_ways_iff {p : Point} : trace ∈ s.ways p here sets ↔ s.Derives p here sets trace :=
  ⟨derives_of_mem_ways s p here sets trace, Derives.mem_ways⟩

/-- **Whether there is a way depends on the state alone.**  Two points with the same state differ in
the start of the current set, which is only recorded. -/
theorem Derives.restart {p : Point} (h : s.Derives p here sets trace) {p' : Point} {o k : Nat}
    (hstate : p'.state o k = p.state o k) : ∃ trace', s.Derives p' here sets trace' := by
  induction h generalizing p' with
  | first ht hrest _ =>
    cases p' with
    | setStart => exact ⟨_, .first ht hrest⟩
    | _ => simp [Point.state] at hstate
  | @another start tokens here sets t trace hless hplus ht _ ih =>
    cases p' with
    | tokenEnd start' tokens' =>
      simp only [Point.state, SearchState.mk.injEq, true_and, and_true] at hstate
      obtain ⟨trace', h'⟩ := @ih (.tokenEnd start' (tokens + 1)) rfl
      rw [hstate]
      exact ⟨_, .another hless hplus ht h'⟩
    | _ => simp [Point.state] at hstate
  | hold hhold hminus _ ih =>
    cases p' with
    | tokenEnd start' _ =>
      obtain ⟨trace', h'⟩ := @ih (.holdEnd start') rfl
      exact ⟨_, .hold hhold hminus h'⟩
    | _ => simp [Point.state] at hstate
  | noHold _ ih =>
    cases p' with
    | tokenEnd start' _ =>
      obtain ⟨trace', h'⟩ := @ih (.holdEnd start') rfl
      exact ⟨_, .noHold h'⟩
    | _ => simp [Point.state] at hstate
  | noTimes _ ih =>
    cases p' with
    | holdEnd start' =>
      obtain ⟨trace', h'⟩ := @ih (.setEnd start') rfl
      exact ⟨_, .noTimes h'⟩
    | _ => simp [Point.state] at hstate
  | times hcount _ ih =>
    cases p' with
    | holdEnd start' =>
      obtain ⟨trace', h'⟩ := @ih (.setEnd start') rfl
      exact ⟨_, .times hcount h'⟩
    | _ => simp [Point.state] at hstate
  | nextSet hless hrest hnext _ =>
    cases p' with
    | setEnd start' => exact ⟨_, .nextSet hless hrest hnext⟩
    | _ => simp [Point.state] at hstate
  | done hrest =>
    cases p' with
    | setEnd start' => exact ⟨_, .done hrest⟩
    | _ => simp [Point.state] at hstate

end Search

end ChatPad
