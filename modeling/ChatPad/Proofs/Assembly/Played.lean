import ChatPad.Proofs.Assembly.Agreement

/-!
# What a reading plays

What a message plays does not depend on where its parts stand: offsets only matter for the texts of
rejections.  `Reading.played` lists the sets that a reading plays, without any offset, and

* `Reading.assembled_eq_ok_iff`: assembly gives these sets exactly if every token is read and there
  are not too many of them.
-/

namespace ChatPad

/-! ## What is played -/

/-- What the definition of a token reads in it. -/
def ReadToken.input? (definitions : List Definition) (t : ReadToken) : Option Input := do
  let d ← definitions[t.definition]?
  d.read (String.ofList t.word)

/-- The set that is played: the tokens as they are read, and a hold marker if there is one. -/
def ReadSet.played (definitions : List Definition) (set : ReadSet) : InputSet :=
  ⟨set.tokens.filterMap (ReadToken.input? definitions) ++ if set.held then [Input.hold] else []⟩

/-- The sets that a reading plays, each as often as it says. -/
def Reading.played (definitions : List Definition) (sets : Reading) : List InputSet :=
  sets.flatMap fun set => List.replicate set.repetitions (set.played definitions)

variable {definitions : List Definition} {limits : Limits}

/-! ## One set -/

/-- A token without its place. -/
def PlacedToken.token (t : PlacedToken) : ReadToken := ⟨t.definition, t.word⟩

theorem map_token_placeTokens (tokens : List ReadToken) (offset : Nat) :
    (placeTokens offset tokens).map PlacedToken.token = tokens := by
  induction tokens generalizing offset with
  | nil => rfl
  | cons t more ih =>
    rw [placeTokens, List.map_cons, ih]
    rfl

theorem ReadSet.inputs_eq (set : ReadSet) (offset : Nat) :
    (⟨set.inputs definitions offset⟩ : InputSet) = set.played definitions := by
  have hread : (set.placed offset).filterMap (PlacedToken.input? definitions) =
      set.tokens.filterMap (ReadToken.input? definitions) := by
    rw [← map_token_placeTokens set.tokens offset, List.filterMap_map]
    rfl
  rw [inputs, hread]
  rfl

theorem PlacedToken.rejection?_eq_none_iff {t : PlacedToken} {d : Definition}
    (hd : definitions[t.definition]? = some d) :
    t.rejection? definitions = none ↔ (t.input? definitions).isSome = true := by
  have hrejection : t.rejection? definitions = if (d.read (String.ofList t.word)).isNone then
      some (.tokenRejected d.description (String.ofList t.word) t.start) else none := by
    rw [rejection?, hd]
    rfl
  have hinput : t.input? definitions = d.read (String.ofList t.word) := by
    rw [input?, hd]
    rfl
  rw [hrejection, hinput]
  cases d.read (String.ofList t.word) <;> simp

/-- **A set is rejected exactly if one of its tokens is not read.** -/
theorem ReadSet.rejection?_eq_none_iff {set : ReadSet} (hset : set.Valid definitions limits)
    (offset : Nat) : set.rejection? definitions offset = none ↔
      ∀ t ∈ set.tokens, (t.input? definitions).isSome = true := by
  have hqueued (t : PlacedToken) :
      t ∈ queued definitions (set.placed offset) ↔ t ∈ set.placed offset :=
    mem_queued_iff fun t => exists_getElem?_of_mem_placed hset
  rw [rejection?_eq_findSome? hset, List.findSome?_eq_none_iff]
  conv_rhs => rw [← map_token_placeTokens set.tokens offset, List.forall_mem_map]
  refine forall_congr' fun t => ?_
  rw [hqueued]
  refine imp_congr_right fun ht => ?_
  obtain ⟨d, hd⟩ := exists_getElem?_of_mem_placed hset ht
  exact PlacedToken.rejection?_eq_none_iff hd

/-! ## All sets -/

theorem map_eq_ok_iff {ε α β : Type} {x : Except ε α} {f : α → β} {b : β} :
    x.map f = .ok b ↔ ∃ a, x = .ok a ∧ f a = b := by
  cases x <;> simp [Except.map]

theorem Reading.length_played_cons (set : ReadSet) (later : Reading) :
    (Reading.played definitions (set :: later)).length =
      set.repetitions + (Reading.played definitions later).length := by
  rw [played, List.flatMap_cons, List.length_append, List.length_replicate]
  rfl

theorem ReadSet.repetitions_pos {set : ReadSet} (hset : set.Valid definitions limits) :
    0 < set.repetitions := by
  rw [repetitions]
  cases htimes : set.times with
  | none => exact Nat.one_pos
  | some count => exact (hset.rest.times count htimes).2.1

/-- A message plays something. -/
theorem Reading.played_ne_nil {sets : Reading} (hne : sets ≠ [])
    (hsets : ∀ set ∈ sets, set.Valid definitions limits) :
    Reading.played definitions sets ≠ [] := by
  cases sets with
  | nil => exact absurd rfl hne
  | cons set later =>
    have hpos := ReadSet.repetitions_pos (hsets set List.mem_cons_self)
    have hlength : (Reading.played definitions (set :: later)).length = _ :=
      Reading.length_played_cons set later
    intro hempty
    rw [hempty, List.length_nil] at hlength
    omega

/-- **Assembly gives what is played**, if every token is read and the limit is kept. -/
theorem Reading.assembled_eq_ok_iff {limit : Nat} {result : List InputSet} (sets : Reading)
    (hsets : ∀ set ∈ sets, set.Valid definitions limits) : ∀ {offset produced : Nat},
      produced ≤ limit →
      (Reading.assembled definitions limit offset produced sets = .ok result ↔
        (∀ set ∈ sets, ∀ t ∈ set.tokens, (t.input? definitions).isSome = true) ∧
          produced + (Reading.played definitions sets).length ≤ limit ∧
          result = Reading.played definitions sets) := by
  induction sets generalizing result with
  | nil =>
    intro offset produced hproduced
    rw [Reading.assembled, Except.ok.injEq]
    exact ⟨fun h => ⟨List.forall_mem_nil _, hproduced, h.symm⟩, fun h => h.2.2.symm⟩
  | cons set later ih =>
    intro offset produced hproduced
    have hset := hsets set List.mem_cons_self
    have hlater := fun set hset => hsets set (List.mem_cons_of_mem _ hset)
    rw [Reading.assembled, List.forall_mem_cons, Reading.length_played_cons]
    cases hrejection : set.rejection? definitions offset with
    | some rejection =>
      have hrefused := mt (ReadSet.rejection?_eq_none_iff hset offset).mpr (by simp [hrejection])
      simp [hrefused]
    | none =>
      have hread := (ReadSet.rejection?_eq_none_iff hset offset).mp hrejection
      simp only
      split
      · rename_i hlong
        simp only [reduceCtorEq, false_iff, not_and]
        intro _ hlength
        omega
      · rename_i hshort
        rw [map_eq_ok_iff]
        simp only [ih hlater (Nat.not_lt.mp hshort), Reading.played, List.flatMap_cons,
          ReadSet.inputs_eq]
        constructor
        · rintro ⟨rest, ⟨hrest, hlength, rfl⟩, rfl⟩
          exact ⟨⟨hread, hrest⟩, by omega, rfl⟩
        · rintro ⟨⟨_, hrest⟩, hlength, rfl⟩
          exact ⟨_, ⟨hrest, by omega, rfl⟩, rfl⟩

end ChatPad
