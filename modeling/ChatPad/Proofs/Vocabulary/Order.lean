import ChatPad.Proofs.Parser.Plain
import ChatPad.Proofs.Vocabulary.Names

/-!
# The order of names

The order in which names are registered decides between those that match the same text, and it also
decides in which order tokens are read.  Where the tokens of a vocabulary can be told apart, neither
is to be seen: a reading of a message stays a reading when its tokens are renumbered for another
arrangement of the names, and every name reads all of its tokens.

* `Reads.renumbered`: renumbering takes readings to readings;
* `Reading.assembled_renumbered`: what is assembled stays the same, also if there is too much of it;
* `PlainParser.read_perm`: parsers for two arrangements of the same names answer alike.
-/

namespace ChatPad

variable {names names' : List Name} {limits : Limits} {text : List Char}

/-- A vocabulary of distinct names in another order. -/
theorem DistinctNames.perm (h : DistinctNames names) (hperm : names.Perm names') :
    DistinctNames names' where
  ne_empty name hname := h.ne_empty name (hperm.mem_iff.mpr hname)
  fresh name hname := h.fresh name (hperm.mem_iff.mpr hname)
  apart := hperm.pairwise h.apart fun happart => ⟨happart.2, happart.1⟩

/-! ## Renumbering -/

/-- The token with the number that its name has in another vocabulary. -/
def ReadToken.renumbered (names names' : List Name) (t : ReadToken) : ReadToken :=
  { t with definition := (names[t.definition]?).elim 0 fun name => names'.idxOf name }

def ReadSet.renumbered (names names' : List Name) (set : ReadSet) : ReadSet :=
  { set with
    first := set.first.renumbered names names'
    more := set.more.map (ReadToken.renumbered names names') }

theorem ReadSet.tokens_renumbered (set : ReadSet) :
    (set.renumbered names names').tokens = set.tokens.map (ReadToken.renumbered names names') :=
  rfl

theorem ReadSet.text_renumbered (set : ReadSet) :
    (set.renumbered names names').text = set.text := by
  have hmore : moreText (set.more.map (ReadToken.renumbered names names')) = moreText set.more := by
    rw [moreText, List.flatMap_map]
    rfl
  show set.first.word ++ (moreText (set.more.map _) ++ _) = _
  rw [hmore]
  rfl

variable (hsubset : names ⊆ names')

include hsubset

namespace ReadToken

variable {t : ReadToken}

/-- The number of a renumbered token stands for the same name. -/
theorem getElem?_renumbered {name : Name} (h : names[t.definition]? = some name) :
    names'[(t.renumbered names names').definition]? = some name := by
  have hmem := hsubset (List.mem_of_getElem? h)
  have hlength := List.idxOf_lt_length_of_mem hmem
  rw [renumbered, h, Option.elim_some, List.getElem?_eq_getElem hlength, List.getElem_idxOf hlength]

theorem definition_renumbered (ht : t.Valid (definitionsOf names)) :
    (definitionsOf names')[(t.renumbered names names').definition]? =
      (definitionsOf names)[t.definition]? := by
  obtain ⟨name, hname, _⟩ := exists_spells_of_valid ht
  rw [definitionsOf, definitionsOf, List.getElem?_map, List.getElem?_map,
    getElem?_renumbered hsubset hname, hname]

theorem Valid.renumbered (ht : t.Valid (definitionsOf names)) :
    (t.renumbered names names').Valid (definitionsOf names') where
  ne_nil := ht.ne_nil
  matched := by
    rw [definition_renumbered hsubset ht]
    exact ht.matched

theorem input?_renumbered (ht : t.Valid (definitionsOf names)) :
    (t.renumbered names names').input? (definitionsOf names') =
      t.input? (definitionsOf names) := by
  rw [input?, input?, definition_renumbered hsubset ht]
  rfl

end ReadToken

namespace ReadSet

variable {set : ReadSet}

theorem Valid.renumbered (hset : set.Valid (definitionsOf names) limits) :
    (set.renumbered names names').Valid (definitionsOf names') limits where
  first := hset.first.renumbered hsubset
  rest :=
    { more := List.forall_mem_map.mpr fun t ht => (hset.rest.more t ht).renumbered hsubset
      length := by
        have hlength := hset.rest.length
        show 1 + (set.more.map _).length ≤ limits.setLength
        rw [List.length_map]
        exact hlength
      held := hset.rest.held
      times := hset.rest.times }

theorem played_renumbered (hset : set.Valid (definitionsOf names) limits) :
    (set.renumbered names names').played (definitionsOf names') =
      set.played (definitionsOf names) := by
  have hread : (set.renumbered names names').tokens.filterMap
        (ReadToken.input? (definitionsOf names')) =
      set.tokens.filterMap (ReadToken.input? (definitionsOf names)) := by
    rw [tokens_renumbered, List.filterMap_map]
    exact List.filterMap_congr fun t ht => ReadToken.input?_renumbered hsubset (hset.tokens t ht)
  rw [played, hread]
  rfl

end ReadSet

/-- **Renumbering takes readings to readings.** -/
theorem Reads.renumbered {sets : Reading} (h : Reads (definitionsOf names) limits text sets) :
    Reads (definitionsOf names') limits text (sets.map (ReadSet.renumbered names names')) where
  ne_nil := by
    rw [Ne, List.map_eq_nil_iff]
    exact h.ne_nil
  length := by
    rw [List.length_map]
    exact h.length
  valid := List.forall_mem_map.mpr fun set hset => (h.valid set hset).renumbered hsubset
  text := by
    rw [h.text, Reading.text, Reading.text, List.flatMap_map]
    exact List.flatMap_congr fun set _ => set.text_renumbered.symm

omit hsubset

/-! ## What is assembled -/

/-- No name refuses one of its tokens. -/
theorem ReadSet.rejection?_eq_none {set : ReadSet} (hset : set.Valid (definitionsOf names) limits)
    (offset : Nat) : set.rejection? (definitionsOf names) offset = none := by
  refine (ReadSet.rejection?_eq_none_iff hset offset).mpr fun t ht => ?_
  obtain ⟨name, hname, hspells⟩ := exists_spells_of_valid (hset.tokens t ht)
  obtain ⟨kind, _, hread⟩ := Name.exists_read_of_spells hspells
  rw [ReadToken.input?, definitionsOf, List.getElem?_map, hname]
  exact Option.isSome_of_eq_some hread

/-- **What is assembled stays the same**, set by set. -/
theorem Reading.assembled_renumbered (hsubset : names ⊆ names') {limit : Nat} (sets : Reading)
    (hsets : ∀ set ∈ sets, set.Valid (definitionsOf names) limits) : ∀ offset produced : Nat,
      Reading.assembled (definitionsOf names') limit offset produced
          (sets.map (ReadSet.renumbered names names')) =
        Reading.assembled (definitionsOf names) limit offset produced sets := by
  induction sets with
  | nil => exact fun _ _ => rfl
  | cons set later ih =>
    intro offset produced
    obtain ⟨hset, hlater⟩ := List.forall_mem_cons.mp hsets
    have hset' := hset.renumbered hsubset
    have hrepetitions : (set.renumbered names names').repetitions = set.repetitions := rfl
    rw [List.map_cons, assembled, assembled, ReadSet.rejection?_eq_none hset,
      ReadSet.rejection?_eq_none hset', ReadSet.inputs_eq, ReadSet.inputs_eq,
      ReadSet.played_renumbered hsubset hset, ReadSet.text_renumbered, hrepetitions]
    simp only [ih hlater]

namespace PlainParser

variable {p p' : PlainParser}

theorem read_eq_of_perm (hnames : DistinctNames names) (hperm : names.Perm names')
    (hp : ofDefinitions (definitionsOf names) limits = .ok p)
    (hp' : ofDefinitions (definitionsOf names') limits = .ok p') (text : String) :
    p.read text = p'.read text := by
  by_cases hreading : ∃ sets, Reads (definitionsOf names) limits text.toList sets
  · obtain ⟨sets, hreads⟩ := hreading
    rw [read_eq_assembled hnames.unambiguous hp hreads,
      read_eq_assembled (hnames.perm hperm).unambiguous hp' (hreads.renumbered hperm.subset),
      Reading.assembled_renumbered hperm.subset sets hreads.valid]
  · have hnone := not_exists.mp hreading
    -- renumbered the other way around, a reading for `names'` would be one for `names`
    have hnone' : ∀ sets, ¬ Reads (definitionsOf names') limits text.toList sets :=
      fun sets hreads => hnone _ (hreads.renumbered hperm.symm.subset)
    rw [read_eq_noMatch hp hnone, read_eq_noMatch hp' hnone']

/-- **The order of distinct names does not matter.**  Two arrangements of them make a parser under the
same limits, or fail to for the same reason.  The two parsers make the same of every text: the very
same sequence, or a rejection for the same reason. -/
theorem read_perm (hnames : DistinctNames names) (hperm : names.Perm names') (limits : Limits)
    (text : String) :
    (ofDefinitions (definitionsOf names) limits).map (fun p => (p.read text, p.parse text)) =
      (ofDefinitions (definitionsOf names') limits).map fun p => (p.read text, p.parse text) := by
  have hempty : (definitionsOf names).isEmpty = (definitionsOf names').isEmpty := by
    rw [definitionsOf, definitionsOf, List.isEmpty_map, List.isEmpty_map, hperm.isEmpty_eq]
  have herror (error : SetupError) : ofDefinitions (definitionsOf names) limits = .error error ↔
      ofDefinitions (definitionsOf names') limits = .error error := by
    rw [ofDefinitions_eq_error_iff, ofDefinitions_eq_error_iff, Grammar.compile_eq_error_iff hempty]
  cases hp : ofDefinitions (definitionsOf names) limits with
  | error error =>
    rw [(herror error).mp hp]
  | ok p =>
    cases hp' : ofDefinitions (definitionsOf names') limits with
    | error error =>
      rw [(herror error).mpr hp'] at hp
      cases hp
    | ok p' =>
      have hread := read_eq_of_perm hnames hperm hp hp' text
      have hparse : p.parse text = p'.parse text := by
        rw [parse, parse, hread]
      exact congrArg Except.ok (Prod.ext hread hparse)

/-- Whichever of two names comes first, four sets are too many where three are allowed. -/
theorem read_perm_too_long :
    let names : List Name := [{ text := "up", target := "UP" },
      { text := "r", target := "R", isAnalog := true }]
    let limits : Limits := { sequenceLength := 3 }
    ∃ p p', ofDefinitions (definitionsOf names) limits = .ok p ∧
      ofDefinitions (definitionsOf names.reverse) limits = .ok p' ∧
      p.read "up2UP2" = .error (.sequenceTooLong 4 3) ∧
      p'.read "up2UP2" = .error (.sequenceTooLong 4 3) := by
  intro names limits
  have hnames : DistinctNames names := by decide
  obtain ⟨p, p', hp, hp', hread⟩ : ∃ p p', ofDefinitions (definitionsOf names) limits = .ok p ∧
      ofDefinitions (definitionsOf names.reverse) limits = .ok p' ∧
      p.read "up2UP2" = .error (.sequenceTooLong 4 3) := by
    let twice (word : String) : ReadSet := ⟨⟨[], false, some 2⟩, ⟨0, word.toList⟩⟩
    refine ⟨_, _, rfl, rfl, Eq.trans (read_of_captures rfl [twice "up", twice "UP"] ?_) ?_⟩
    · decide +kernel
    · rfl
  have hsame := read_perm hnames (List.reverse_perm names).symm limits "up2UP2"
  rw [hp, hp'] at hsame
  obtain ⟨hread', _⟩ := Prod.mk.inj (Except.ok.inj hsame)
  exact ⟨p, p', hp, hp', hread, hread'.symm.trans hread⟩

end PlainParser

end ChatPad
