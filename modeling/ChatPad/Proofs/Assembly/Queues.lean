import ChatPad.Proofs.Assembly.Reference

/-!
# The captures of a reading, kind by kind

Assembly separates captures by their kind and later finds out by their offsets which of them belong
to a set.  That works because a match leaves its captures in a row: each begins where the one before
it ends, or later, and all but the ends of sets have a width (`Capture.InRow`).

* `Pending.ofCaptures_eq_recorded`, `setEnds_eq_setEndsOf`: sorting changes nothing;
* `IsKind.takeWhile_append`, `IsKind.dropWhile_append`: an offset between two rows tells their
  captures apart, in every queue;
* `tokensOf_captures`, `holdsOf_captures`, `repeatsOf_captures`, `setEndsOf_captures`: what the
  captures of one set give to each queue.
-/

namespace ChatPad

/-! ## Rows of captures -/

namespace Capture

/-- Where a capture begins.  Of a set only its end counts. -/
def start : Capture → Nat
  | token _ _ start _ _ => start
  | hold offset => offset
  | times offset _ => offset
  | set _ stop => stop

/-- Where a capture ends. -/
def stop : Capture → Nat
  | token _ _ _ stop _ => stop
  | hold offset => offset + 1
  | times offset _ => offset + 1
  | set _ stop => stop

def isSet : Capture → Bool
  | set _ _ => true
  | _ => false

/-- **Captures in a row**: they stand one after the other between two offsets, and only the end of a
set has no width. -/
inductive InRow : Nat → List Capture → Nat → Prop
  | nil {low high : Nat} : low ≤ high → InRow low [] high
  | cons {low high : Nat} {c : Capture} {l : List Capture} : low ≤ c.start → c.start ≤ c.stop →
      (c.isSet = false → c.start < c.stop) → InRow c.stop l high → InRow low (c :: l) high

variable {low middle high : Nat} {c : Capture} {l l' : List Capture}

theorem InRow.le (h : InRow low l high) : low ≤ high := by
  induction h with
  | nil hle => exact hle
  | cons hlow hstop _ _ ih => omega

theorem InRow.append (h : InRow low l middle) (h' : InRow middle l' high) :
    InRow low (l ++ l') high := by
  induction h with
  | nil hle =>
    cases h' with
    | nil hle' => exact .nil (Nat.le_trans hle hle')
    | cons hlow hstop hwide hrest => exact .cons (Nat.le_trans hle hlow) hstop hwide hrest
  | cons hlow hstop hwide _ ih => exact .cons hlow hstop hwide (ih h')

theorem InRow.bounds (h : InRow low l high) (hc : c ∈ l) :
    low ≤ c.start ∧ c.stop ≤ high ∧ (c.isSet = false → c.start < c.stop) := by
  induction h with
  | nil _ => cases hc
  | cons hlow hstop hwide hrest ih =>
    rcases List.mem_cons.mp hc with rfl | hc
    · exact ⟨hlow, hrest.le, hwide⟩
    · obtain ⟨hlow', hhigh, hwide'⟩ := ih hc
      exact ⟨by omega, hhigh, hwide'⟩

theorem InRow.pairwise (h : InRow low l high) :
    l.Pairwise fun a b => (a.isSet = false → a.start < b.start) ∧ a.stop ≤ b.start := by
  induction h with
  | nil _ => exact List.Pairwise.nil
  | cons hlow hstop hwide hrest ih =>
    refine List.Pairwise.cons ?_ ih
    intro b hb
    have hle := (hrest.bounds hb).1
    exact ⟨fun hset => Nat.lt_of_lt_of_le (hwide hset) hle, hle⟩

end Capture

open Capture (InRow)

/-! ## Kinds of captures -/

/-- A kind of captures, apart from sets: `of` picks them out, and `key` is where each begins. -/
def IsKind {α : Type} (of : List Capture → List α) (key : α → Nat) : Prop :=
  ∃ f : Capture → Option α, (∀ captures, of captures = captures.filterMap f) ∧
    ∀ c a, f c = some a → c.isSet = false ∧ key a = c.start

namespace IsKind

variable {α : Type} {of : List Capture → List α} {key : α → Nat} {low middle high : Nat}
  {l l' : List Capture}

theorem append (h : IsKind of key) (l l' : List Capture) : of (l ++ l') = of l ++ of l' := by
  obtain ⟨f, hof, _⟩ := h
  rw [hof, hof, hof, List.filterMap_append]

theorem bounds (h : IsKind of key) (hrow : InRow low l high) {a : α} (ha : a ∈ of l) :
    low ≤ key a ∧ key a < high := by
  obtain ⟨f, hof, hkey⟩ := h
  rw [hof] at ha
  obtain ⟨c, hc, hca⟩ := List.mem_filterMap.mp ha
  obtain ⟨hset, hstart⟩ := hkey c a hca
  obtain ⟨hlow, hhigh, hwide⟩ := hrow.bounds hc
  have := hwide hset
  omega

theorem ascending (h : IsKind of key) (hrow : InRow low l high) :
    (of l).Pairwise fun a b => key a < key b := by
  obtain ⟨f, hof, hkey⟩ := h
  rw [hof]
  refine List.Pairwise.filterMap f ?_ hrow.pairwise
  intro c c' hlt a ha a' ha'
  obtain ⟨hset, hstart⟩ := hkey c a ha
  obtain ⟨_, hstart'⟩ := hkey c' a' ha'
  rw [hstart, hstart']
  exact hlt.1 hset

/-- The captures after a boundary are not taken with those before it. -/
theorem not_lt_boundary (h : IsKind of key) (hrow : InRow middle l' high) :
    ∀ a ∈ of l', ¬ key a < middle :=
  fun _ ha => Nat.not_lt.mpr (h.bounds hrow ha).1

theorem takeWhile_append (h : IsKind of key) (hrow : InRow low l middle)
    (hrow' : InRow middle l' high) :
    ((of (l ++ l')).takeWhile fun a => key a < middle) = of l := by
  rw [h.append, List.takeWhile_append_of_pos fun a ha => decide_eq_true (h.bounds hrow ha).2]
  have hafter := h.not_lt_boundary hrow'
  cases hl' : of l' with
  | nil => rw [List.takeWhile_nil, List.append_nil]
  | cons a rest =>
    rw [hl'] at hafter
    rw [List.takeWhile_cons_of_neg (by simpa using hafter a List.mem_cons_self), List.append_nil]

theorem dropWhile_append (h : IsKind of key) (hrow : InRow low l middle)
    (hrow' : InRow middle l' high) :
    ((of (l ++ l')).dropWhile fun a => key a < middle) = of l' := by
  rw [h.append, List.dropWhile_append_of_pos fun a ha => decide_eq_true (h.bounds hrow ha).2]
  have hafter := h.not_lt_boundary hrow'
  cases hl' : of l' with
  | nil => rfl
  | cons a rest =>
    rw [hl'] at hafter
    exact List.dropWhile_cons_of_neg (by simpa using hafter a List.mem_cons_self)

end IsKind

/-! ## The captures of a reading stand in a row -/

variable {definitions : List Definition} {limits : Limits}

theorem timesCaptures_inRow (start offset : Nat) (times : Option Nat) :
    InRow offset (timesCaptures start offset times)
      (offset + Text.byteLength (timesText times)) := by
  cases times with
  | none => exact .cons (Nat.le_refl _) (Nat.le_refl _) (fun h => nomatch h) (.nil (Nat.le_refl _))
  | some count =>
    rw [byteLength_timesText_some]
    have hset : InRow (offset + 1) [Capture.set start (offset + 1)] (offset + 1) :=
      .cons (Nat.le_refl _) (Nat.le_refl _) (fun h => nomatch h) (.nil (Nat.le_refl _))
    exact .cons (Nat.le_refl _) (Nat.le_succ _) (fun _ => Nat.lt_succ_self _) hset

theorem holdCaptures_inRow (start offset : Nat) (times : Option Nat) (held : Bool) :
    InRow offset (holdCaptures start offset times held)
      (offset + Text.byteLength (holdText held ++ timesText times)) := by
  cases held with
  | false => exact timesCaptures_inRow start offset times
  | true =>
    have hrest := timesCaptures_inRow start (offset + 1) times
    rw [Nat.add_assoc] at hrest
    exact .cons (Nat.le_refl _) (Nat.le_succ _) (fun _ => Nat.lt_succ_self _) hrest

theorem restCaptures_inRow (start : Nat) (held : Bool) (times : Option Nat)
    {more : List ReadToken} (hmore : ∀ t ∈ more, t.word ≠ []) :
    ∀ offset, InRow offset (restCaptures start held times offset more)
      (offset + Text.byteLength (SetRest.text ⟨more, held, times⟩)) := by
  induction more with
  | nil => exact fun offset => holdCaptures_inRow start offset times held
  | cons t more ih =>
    intro offset
    have hword := Text.byteLength_pos (hmore t List.mem_cons_self)
    have hrest := ih (fun t' ht' => hmore t' (List.mem_cons_of_mem t ht'))
      (offset + 1 + Text.byteLength t.word)
    rw [SetRest.offset_text_cons]
    refine .cons (Nat.le_succ offset) ?_ ?_ hrest
    · exact Nat.le_add_right _ _
    · exact fun _ => Nat.lt_add_of_pos_right hword

theorem ReadSet.captures_inRow {set : ReadSet} (hset : set.Valid definitions limits)
    (offset : Nat) : InRow offset (set.captures offset) (offset + Text.byteLength set.text) := by
  have hword := Text.byteLength_pos hset.first.ne_nil
  have hrest := restCaptures_inRow offset set.held set.times
    (fun t ht => (hset.rest.more t ht).ne_nil) (offset + Text.byteLength set.first.word)
  rw [ReadSet.text, Text.byteLength_append, ← Nat.add_assoc]
  exact .cons (Nat.le_refl _) (Nat.le_add_right _ _) (fun _ => Nat.lt_add_of_pos_right hword) hrest

theorem Reading.captures_inRow {sets : Reading}
    (hsets : ∀ set ∈ sets, set.Valid definitions limits) : ∀ offset, InRow offset (Reading.captures offset sets)
      (offset + Text.byteLength (Reading.text sets)) := by
  induction sets with
  | nil => exact fun offset => .nil (Nat.le_refl offset)
  | cons set later ih =>
    intro offset
    have hlater := ih (fun other hother => hsets other (List.mem_cons_of_mem set hother))
      (offset + Text.byteLength set.text)
    rw [Nat.add_assoc, ← Text.byteLength_append] at hlater
    exact (ReadSet.captures_inRow (hsets set List.mem_cons_self) offset).append hlater

namespace Assembly

/-! ## Queues and sorting -/

theorem tokensOf_isKind (id : Nat) : IsKind (fun captures => tokensOf captures id) Prod.fst := by
  refine ⟨_, fun _ => rfl, ?_⟩
  intro c a hca
  cases c with
  | token alternative slot start stop word =>
    simp only [Option.ite_none_right_eq_some, Option.some.injEq] at hca
    obtain ⟨_, rfl⟩ := hca
    exact ⟨rfl, rfl⟩
  | hold => cases hca
  | times => cases hca
  | set => cases hca

theorem holdsOf_isKind : IsKind holdsOf id := by
  refine ⟨_, fun _ => rfl, ?_⟩
  intro c a hca
  cases c with
  | hold offset =>
    obtain rfl := Option.some.inj hca
    exact ⟨rfl, rfl⟩
  | token => cases hca
  | times => cases hca
  | set => cases hca

theorem repeatsOf_isKind : IsKind repeatsOf Prod.fst := by
  refine ⟨_, fun _ => rfl, ?_⟩
  intro c a hca
  cases c with
  | times offset count =>
    obtain rfl := Option.some.inj hca
    exact ⟨rfl, rfl⟩
  | token => cases hca
  | hold => cases hca
  | set => cases hca

/-- The queues with their captures in the order in which they were recorded. -/
def Pending.recorded (definitions : List Definition) (captures : List Capture) : Pending where
  queues := definitions.zipIdx.map fun p => ⟨p.1, tokensOf captures p.2⟩
  holds := holdsOf captures
  repeats := repeatsOf captures

variable {low high : Nat} {captures : List Capture}

theorem pairLe_of_fst_lt {a b : Nat × Nat} (h : a.1 < b.1) : pairLe a b = true := by
  rw [pairLe, decide_eq_true h]
  rfl

/-- **Queues are sorted from the start.** -/
theorem Pending.ofCaptures_eq_recorded (definitions : List Definition)
    (hrow : InRow low captures high) :
    ofCaptures definitions captures = recorded definitions captures := by
  have htokens (id : Nat) : ((tokensOf captures id).mergeSort fun a b => pairLe a.span b.span) =
      tokensOf captures id :=
    List.mergeSort_of_pairwise
      (((tokensOf_isKind id).ascending hrow).imp fun hlt => pairLe_of_fst_lt hlt)
  have hholds : (holdsOf captures).mergeSort = holdsOf captures :=
    List.mergeSort_of_pairwise
      ((holdsOf_isKind.ascending hrow).imp fun hlt => decide_eq_true (Nat.le_of_lt hlt))
  have hrepeats : (repeatsOf captures).mergeSort pairLe = repeatsOf captures :=
    List.mergeSort_of_pairwise ((repeatsOf_isKind.ascending hrow).imp pairLe_of_fst_lt)
  simp only [ofCaptures, recorded, htokens, hholds, hrepeats]

theorem setEnds_eq_setEndsOf (hrow : InRow low captures high) :
    setEnds captures = setEndsOf captures := by
  refine List.mergeSort_of_pairwise (List.Pairwise.filterMap _ ?_ hrow.pairwise)
  intro c c' hlt a ha a' ha'
  cases c <;> cases ha
  cases c' <;> cases ha'
  exact decide_eq_true hlt.2

/-! ## What one set gives to each queue -/

/-- A token as it waits in a queue. -/
def PlacedToken.waiting (t : PlacedToken) : Token := (t.start, t.word)

theorem tokensOf_cons_token (t : ReadToken) (slot : Slot) (offset : Nat) (l : List Capture)
    (id : Nat) : tokensOf (t.capture slot offset :: l) id =
      if t.definition = id then (offset, t.word) :: tokensOf l id else tokensOf l id := by
  by_cases hid : t.definition = id
  · rw [if_pos hid]
    exact List.filterMap_cons_some (if_pos hid)
  · rw [if_neg hid]
    exact List.filterMap_cons_none (if_neg hid)

theorem tokensOf_restCaptures (start : Nat) (held : Bool) (times : Option Nat) (id : Nat)
    (more : List ReadToken) : ∀ offset, tokensOf (restCaptures start held times offset more) id =
      ((placeTokens (offset + 1) more).filter fun t => t.definition = id).map PlacedToken.waiting := by
  induction more with
  | nil =>
    intro offset
    cases held <;> cases times <;> rfl
  | cons t more ih =>
    intro offset
    rw [restCaptures, tokensOf_cons_token, ih, placeTokens]
    by_cases hid : t.definition = id
    · rw [if_pos hid, List.filter_cons_of_pos (by simpa using hid)]
      rfl
    · rw [if_neg hid, List.filter_cons_of_neg (by simpa using hid)]

/-- The queue of a definition gets the tokens of that definition. -/
theorem tokensOf_captures (set : ReadSet) (offset id : Nat) : tokensOf (set.captures offset) id =
    ((set.placed offset).filter fun t => t.definition = id).map PlacedToken.waiting := by
  have hrest : tokensOf (set.toSetRest.captures offset (offset + Text.byteLength set.first.word)) id =
      ((placeTokens (offset + Text.byteLength set.first.word + 1) set.more).filter
        fun t => t.definition = id).map PlacedToken.waiting :=
    tokensOf_restCaptures offset set.held set.times id set.more _
  rw [ReadSet.captures, tokensOf_cons_token, hrest, ReadSet.placed, ReadSet.tokens, placeTokens]
  by_cases hid : set.first.definition = id
  · rw [if_pos hid, List.filter_cons_of_pos (by simpa using hid)]
    rfl
  · rw [if_neg hid, List.filter_cons_of_neg (by simpa using hid)]

/-- A selection of captures that leaves out all tokens. -/
def IgnoresTokens {α : Type} (of : List Capture → List α) : Prop :=
  ∃ f : Capture → Option α, (∀ captures, of captures = captures.filterMap f) ∧
    ∀ (t : ReadToken) slot offset, f (t.capture slot offset) = none

theorem IgnoresTokens.cons {α : Type} {of : List Capture → List α} (h : IgnoresTokens of)
    (t : ReadToken) (slot : Slot) (offset : Nat) (l : List Capture) :
    of (t.capture slot offset :: l) = of l := by
  obtain ⟨f, hof, htoken⟩ := h
  rw [hof, hof, List.filterMap_cons_none (htoken t slot offset)]

/-- The markers of a set stand behind its tokens. -/
theorem IgnoresTokens.of_captures {α : Type} {of : List Capture → List α} (h : IgnoresTokens of)
    (set : ReadSet) (offset : Nat) : ∃ stop,
      offset + Text.byteLength set.text =
        stop + Text.byteLength (holdText set.held ++ timesText set.times) ∧
      of (set.captures offset) = of (holdCaptures offset stop set.times set.held) := by
  have hrest : ∀ (more : List ReadToken) (offset' : Nat), ∃ stop,
      offset' + Text.byteLength (SetRest.text ⟨more, set.held, set.times⟩) =
        stop + Text.byteLength (holdText set.held ++ timesText set.times) ∧
      of (restCaptures offset set.held set.times offset' more) =
        of (holdCaptures offset stop set.times set.held) := by
    intro more
    induction more with
    | nil => exact fun offset' => ⟨offset', rfl, rfl⟩
    | cons t more ih =>
      intro offset'
      rw [SetRest.offset_text_cons, restCaptures, h.cons]
      exact ih (offset' + 1 + Text.byteLength t.word)
  rw [ReadSet.text, Text.byteLength_append, ← Nat.add_assoc, ReadSet.captures, h.cons]
  exact hrest set.more _

theorem holdsOf_ignoresTokens : IgnoresTokens holdsOf := ⟨_, fun _ => rfl, fun _ _ _ => rfl⟩

theorem repeatsOf_ignoresTokens : IgnoresTokens repeatsOf := ⟨_, fun _ => rfl, fun _ _ _ => rfl⟩

theorem setEndsOf_ignoresTokens : IgnoresTokens setEndsOf := ⟨_, fun _ => rfl, fun _ _ _ => rfl⟩

theorem holdsOf_captures (set : ReadSet) (offset : Nat) :
    ∃ place, holdsOf (set.captures offset) = if set.held then [place] else [] := by
  obtain ⟨stop, _, hcaptures⟩ := holdsOf_ignoresTokens.of_captures set offset
  refine ⟨stop, hcaptures.trans ?_⟩
  cases set.held <;> cases set.times <;> rfl

theorem repeatsOf_captures (set : ReadSet) (offset : Nat) :
    ∃ place, repeatsOf (set.captures offset) = set.times.toList.map (place, ·) := by
  obtain ⟨stop, _, hcaptures⟩ := repeatsOf_ignoresTokens.of_captures set offset
  cases hheld : set.held with
  | false =>
    rw [hheld] at hcaptures
    refine ⟨stop, hcaptures.trans ?_⟩
    cases set.times <;> rfl
  | true =>
    rw [hheld] at hcaptures
    refine ⟨stop + 1, hcaptures.trans ?_⟩
    cases set.times <;> rfl

/-- The end of a set is where its text ends. -/
theorem setEndsOf_captures (set : ReadSet) (offset : Nat) :
    setEndsOf (set.captures offset) = [offset + Text.byteLength set.text] := by
  obtain ⟨stop, hstop, hcaptures⟩ := setEndsOf_ignoresTokens.of_captures set offset
  refine hcaptures.trans ?_
  rw [hstop]
  have htimes (offset' : Nat) : setEndsOf (timesCaptures offset offset' set.times) =
      [offset' + Text.byteLength (timesText set.times)] := by
    cases set.times with
    | none => rfl
    | some count =>
      rw [byteLength_timesText_some]
      rfl
  cases set.held with
  | false => exact htimes stop
  | true =>
    rw [Text.byteLength_append, ← Nat.add_assoc]
    exact htimes (stop + 1)

end Assembly

end ChatPad
