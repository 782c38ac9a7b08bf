import ChatPad.Assembly
import ChatPad.Proofs.Grammar.Candidates
import ChatPad.Proofs.Message.Reading
import Mathlib.Data.List.MinMax
import Mathlib.Data.Prod.Lex

/-!
# What assembly amounts to

Assembly works with queues, offsets and sorting.  `Reading.assembled` says the same without any of
them: the sets of a reading are taken from left to right, each as it stands.  Only the choice among
several refused tokens of a set shows that there are queues behind it: it is by definition first.

The rest of this module is about the tokens of one set.  `queued` puts them in the order of the
queues, by definition and then by offset, and that order gives back both parts of the reference:

* `ReadSet.rejection?_eq_findSome?`: the first refused token in the order of the queues is the one
  that is reported;
* `ReadSet.mergeSort_queued`: what is read in the order of the queues, sorted by offset, is what is
  read from left to right.
-/

namespace ChatPad

/-! ## Tokens in place -/

/-- A token at the offset where it begins. -/
structure PlacedToken where
  definition : Nat
  start : Nat
  word : List Char
deriving DecidableEq, Repr

namespace PlacedToken

/-- What the definition of a token reads in it. -/
def input? (definitions : List Definition) (t : PlacedToken) : Option Input := do
  let d ← definitions[t.definition]?
  d.read (String.ofList t.word)

/-- The rejection of a token, if its definition refuses it. -/
def rejection? (definitions : List Definition) (t : PlacedToken) : Option Rejection := do
  let d ← definitions[t.definition]?
  let text := String.ofList t.word
  if (d.read text).isNone then some (.tokenRejected d.description text t.start) else none

/-- The order in which the tokens of a set are tried: by definition, and then by offset. -/
def rank (t : PlacedToken) : Nat ×ₗ Nat := toLex (t.definition, t.start)

end PlacedToken

/-- Tokens that are joined by `+`, the first of which begins at an offset. -/
def placeTokens : Nat → List ReadToken → List PlacedToken
  | _, [] => []
  | offset, t :: more =>
    ⟨t.definition, offset, t.word⟩ :: placeTokens (offset + Text.byteLength t.word + 1) more

/-! ## The reference -/

namespace ReadSet

/-- The tokens of a set that begins at an offset. -/
def placed (set : ReadSet) (offset : Nat) : List PlacedToken := placeTokens offset set.tokens

/-- The rejection of a set that begins at an offset: that of the least refused token. -/
def rejection? (definitions : List Definition) (set : ReadSet) (offset : Nat) : Option Rejection :=
  (((set.placed offset).filter fun t => (t.rejection? definitions).isSome).argmin
    PlacedToken.rank).bind (PlacedToken.rejection? definitions)

/-- The inputs of a set that begins at an offset: its tokens as they are read, and a hold marker if
it has one. -/
def inputs (definitions : List Definition) (set : ReadSet) (offset : Nat) : List Input :=
  (set.placed offset).filterMap (PlacedToken.input? definitions) ++
    if set.held then [Input.hold] else []

/-- How often a set is played. -/
def repetitions (set : ReadSet) : Nat := set.times.getD 1

end ReadSet

/-- **The reference.**  Takes the sets of a reading that begins at an offset from left to right,
after `produced` sets that are already made. -/
def Reading.assembled (definitions : List Definition) (limit : Nat) :
    Nat → Nat → Reading → Except Rejection (List InputSet)
  | _, _, [] => .ok []
  | offset, produced, set :: later =>
    match set.rejection? definitions offset with
    | some rejection => .error rejection
    | none =>
      let total := produced + set.repetitions
      if limit < total then .error (.sequenceTooLong total limit)
      else
        (Reading.assembled definitions limit (offset + Text.byteLength set.text) total later).map
          (List.replicate set.repetitions ⟨set.inputs definitions offset⟩ ++ ·)

/-! ## Where the tokens of a set stand -/

variable {definitions : List Definition} {limits : Limits}

theorem le_start_of_mem_placeTokens {tokens : List ReadToken} {offset : Nat} {t : PlacedToken}
    (h : t ∈ placeTokens offset tokens) : offset ≤ t.start := by
  induction tokens generalizing offset with
  | nil => cases h
  | cons token more ih =>
    rcases List.mem_cons.mp h with rfl | h
    · exact Nat.le_refl _
    · have := ih h
      omega

theorem placeTokens_ascending (tokens : List ReadToken) (offset : Nat) :
    (placeTokens offset tokens).Pairwise fun a b => a.start < b.start := by
  induction tokens generalizing offset with
  | nil => exact List.Pairwise.nil
  | cons token more ih =>
    refine List.Pairwise.cons ?_ (ih _)
    intro t ht
    have hle := le_start_of_mem_placeTokens ht
    show offset < t.start
    omega

theorem exists_mem_of_mem_placeTokens {tokens : List ReadToken} {offset : Nat} {t : PlacedToken}
    (h : t ∈ placeTokens offset tokens) : ∃ token ∈ tokens, token.definition = t.definition := by
  induction tokens generalizing offset with
  | nil => cases h
  | cons token more ih =>
    rcases List.mem_cons.mp h with rfl | h
    · exact ⟨token, List.mem_cons_self, rfl⟩
    · obtain ⟨other, hother, hdefinition⟩ := ih h
      exact ⟨other, List.mem_cons_of_mem token hother, hdefinition⟩

/-- Every token of a set belongs to a definition. -/
theorem exists_getElem?_of_mem_placed {set : ReadSet} (hset : set.Valid definitions limits)
    {offset : Nat} {t : PlacedToken} (ht : t ∈ set.placed offset) :
    ∃ d, definitions[t.definition]? = some d := by
  obtain ⟨token, htoken, hdefinition⟩ := exists_mem_of_mem_placeTokens ht
  obtain ⟨d, hd, _⟩ := (hset.tokens token htoken).matched
  rw [hdefinition] at hd
  exact ⟨d, hd⟩

/-! ## The order of the queues -/

/-- Tokens in the order of the queues: those of the first definition, then those of the second. -/
def queued (definitions : List Definition) (tokens : List PlacedToken) : List PlacedToken :=
  definitions.zipIdx.flatMap fun p => tokens.filter fun t => t.definition = p.2

theorem mem_queued_iff {tokens : List PlacedToken} {t : PlacedToken}
    (howner : ∀ t ∈ tokens, ∃ d, definitions[t.definition]? = some d) :
    t ∈ queued definitions tokens ↔ t ∈ tokens := by
  rw [queued, List.mem_flatMap]
  constructor
  · intro hleft
    obtain ⟨_, _, ht⟩ := hleft
    exact List.mem_of_mem_filter ht
  · intro ht
    obtain ⟨d, hd⟩ := howner t ht
    have hmem : (d, t.definition) ∈ definitions.zipIdx := List.mem_zipIdx_iff_getElem?.mpr hd
    exact ⟨_, hmem, List.mem_filter.mpr ⟨ht, decide_eq_true rfl⟩⟩

theorem queued_ascending {tokens : List PlacedToken}
    (htokens : tokens.Pairwise fun a b => a.start < b.start) :
    (queued definitions tokens).Pairwise fun a b => a.rank < b.rank := by
  rw [queued, List.pairwise_flatMap]
  constructor
  · intro p _
    refine (htokens.filter _).imp_of_mem ?_
    intro a b ha hb hlt
    have hsame : a.definition = b.definition := by
      rw [of_decide_eq_true (List.mem_filter.mp ha).2, of_decide_eq_true (List.mem_filter.mp hb).2]
    exact Prod.Lex.toLex_lt_toLex.mpr (Or.inr ⟨hsame, hlt⟩)
  · refine (zipIdx_ascending definitions).imp ?_
    intro p q hlt a ha b hb
    have hp := of_decide_eq_true (List.mem_filter.mp ha).2
    have hq := of_decide_eq_true (List.mem_filter.mp hb).2
    exact Prod.Lex.toLex_lt_toLex.mpr (Or.inl (by show a.definition < b.definition; omega))

/-- Queues lose no token and double none. -/
theorem queued_perm {tokens : List PlacedToken}
    (howner : ∀ t ∈ tokens, ∃ d, definitions[t.definition]? = some d)
    (htokens : tokens.Pairwise fun a b => a.start < b.start) :
    (queued definitions tokens).Perm tokens := by
  have hqueued : (queued definitions tokens).Nodup :=
    (queued_ascending htokens).imp fun hlt heq => by
      rw [heq] at hlt
      exact lt_irrefl _ hlt
  have hnodup : tokens.Nodup := htokens.imp fun hlt heq => by
    rw [heq] at hlt
    exact Nat.lt_irrefl _ hlt
  exact (List.perm_ext_iff_of_nodup hqueued hnodup).mpr fun t => mem_queued_iff howner

/-- The least element of a list is the first of its ascending arrangement. -/
theorem argmin_eq_head?_of_perm {α β : Type} [DecidableEq α] [LinearOrder β] {f : α → β}
    {l sorted : List α} (hperm : sorted.Perm l) (hsorted : sorted.Pairwise fun a b => f a < f b) :
    l.argmin f = sorted.head? := by
  cases sorted with
  | nil =>
    have hnil : l = [] := hperm.nil_eq.symm
    rw [hnil, List.argmin_nil, List.head?_nil]
  | cons m rest =>
    have hleast : ∀ a ∈ l, a = m ∨ f m < f a := by
      intro a ha
      rcases List.mem_cons.mp (hperm.mem_iff.mpr ha) with rfl | ha
      · exact Or.inl rfl
      · exact Or.inr ((List.pairwise_cons.mp hsorted).1 a ha)
    refine List.argmin_eq_some_iff.mpr ⟨hperm.mem_iff.mp List.mem_cons_self, ?_, ?_⟩
    · intro a ha
      rcases hleast a ha with rfl | hlt
      · exact le_refl _
      · exact le_of_lt hlt
    · intro a ha hle
      rcases hleast a ha with rfl | hlt
      · exact Nat.le_refl _
      · exact absurd hle (not_le_of_gt hlt)

/-- **The first refused token in the order of the queues is the one that is reported.** -/
theorem ReadSet.rejection?_eq_findSome? {set : ReadSet} (hset : set.Valid definitions limits)
    (offset : Nat) : set.rejection? definitions offset =
      (queued definitions (set.placed offset)).findSome? (PlacedToken.rejection? definitions) := by
  have hperm := queued_perm (fun t => exists_getElem?_of_mem_placed hset)
    (placeTokens_ascending set.tokens offset)
  have hascending : (queued definitions (set.placed offset)).Pairwise fun a b => a.rank < b.rank :=
    queued_ascending (placeTokens_ascending set.tokens offset)
  rw [ReadSet.rejection?, argmin_eq_head?_of_perm (hperm.filter _) (hascending.filter _)]
  generalize queued definitions (set.placed offset) = tokens
  induction tokens with
  | nil => rfl
  | cons t tokens ih =>
    cases ht : t.rejection? definitions with
    | none =>
      rw [List.filter_cons_of_neg (by simp [ht]), ih, List.findSome?_cons_of_isNone (by simp [ht])]
    | some rejection =>
      rw [List.filter_cons_of_pos (by simp [ht]), List.findSome?_cons_of_isSome (by simp [ht])]
      rfl

/-- **Sorting by offset puts the tokens back in the order of the message.** -/
theorem ReadSet.mergeSort_queued {set : ReadSet} (hset : set.Valid definitions limits)
    (offset : Nat) {α : Type} (f : PlacedToken → Option α) :
    (((queued definitions (set.placed offset)).filterMap fun t => (f t).map (t.start, ·)).mergeSort
      fun a b => a.1 ≤ b.1).map Prod.snd = (set.placed offset).filterMap f := by
  have hascending := placeTokens_ascending set.tokens offset
  have hperm := queued_perm (fun t => exists_getElem?_of_mem_placed hset) hascending
  have hstarts : ((set.placed offset).filterMap fun t => (f t).map (t.start, ·)).Pairwise
      fun a b => a.1 < b.1 := by
    refine List.Pairwise.filterMap _ ?_ hascending
    intro t t' hlt a ha a' ha'
    obtain ⟨_, _, rfl⟩ := Option.map_eq_some_iff.mp ha
    obtain ⟨_, _, rfl⟩ := Option.map_eq_some_iff.mp ha'
    exact hlt
  rw [mergeSort_eq_of_perm Prod.fst (hperm.filterMap _) hstarts, List.map_filterMap]
  congr 1
  funext t
  cases f t <;> rfl

end ChatPad
