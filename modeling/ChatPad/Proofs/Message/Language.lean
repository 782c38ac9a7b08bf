import ChatPad.Proofs.Message.Derivation

/-!
# What a grammar finds and accepts

The search of a compiled grammar is measured against two plain descriptions of its messages.

* `Grammar.captures?_first_derivation`: the search finds the first of all ways to read a message,
  with its memory of failed states and without it;
* `Grammar.captures?_isSome_iff_isMessage`: the search finds one exactly if the text is a message,
  which is said by `IsMessage` in terms of texts alone.
-/

namespace ChatPad

/-! ## The language -/

/-- A text that the fragment of a definition allows, and not the empty one. -/
def IsToken (definitions : List Definition) (word : List Char) : Prop :=
  word ≠ [] ∧ ∃ d ∈ definitions, d.fragment.Matches word

/-- A hold marker, if holding is enabled, or nothing. -/
def IsHold (limits : Limits) (hold : List Char) : Prop :=
  hold = [] ∨ limits.hold = true ∧ hold = ['-']

/-- A repeat digit, if a sequence may have more than one set, or nothing. -/
def IsTimes (limits : Limits) (times : List Char) : Prop :=
  times = [] ∨ 1 < limits.sequenceLength ∧ ∃ digit, times = [digit] ∧ Text.isDigit digit = true ∧
    1 ≤ Text.digitValue digit ∧ Text.digitValue digit ≤ min 9 limits.sequenceLength

/-- Tokens joined by `+`, a hold marker or none, a repeat digit or none. -/
def IsSet (definitions : List Definition) (limits : Limits) (text : List Char) : Prop :=
  ∃ words hold times, 1 ≤ words.length ∧ words.length ≤ limits.setLength ∧
    (∀ word ∈ words, IsToken definitions word) ∧ IsHold limits hold ∧ IsTimes limits times ∧
    text = List.intercalate ['+'] words ++ hold ++ times

/-- **A message is sets in a row**, at least one and no more than the limits allow. -/
def IsMessage (definitions : List Definition) (limits : Limits) (text : List Char) : Prop :=
  ∃ sets : List (List Char), 1 ≤ sets.length ∧ sets.length ≤ limits.sequenceLength ∧
    (∀ set ∈ sets, IsSet definitions limits set) ∧ text = sets.flatten

/-! ## The texts of readings -/

variable {definitions : List Definition} {limits : Limits}

theorem exists_map_eq_iff {α β : Type} {p : α → Prop} {f : α → β} {l : List β} :
    (∃ l' : List α, (∀ a ∈ l', p a) ∧ l'.map f = l) ↔ ∀ b ∈ l, ∃ a, p a ∧ f a = b := by
  constructor
  · intro hleft b hb
    obtain ⟨l', hp, rfl⟩ := hleft
    obtain ⟨a, ha, hab⟩ := List.mem_map.mp hb
    exact ⟨a, hp a ha, hab⟩
  · intro h
    induction l with
    | nil => exact ⟨[], by simp, rfl⟩
    | cons b l ih =>
      obtain ⟨a, ha, hab⟩ := h b List.mem_cons_self
      obtain ⟨l', hl', hmap⟩ := ih fun b' hb' => h b' (List.mem_cons_of_mem b hb')
      refine ⟨a :: l', ?_, by rw [List.map_cons, hab, hmap]⟩
      intro a' ha'
      rcases List.mem_cons.mp ha' with rfl | ha'
      · exact ha
      · exact hl' a' ha'

theorem isToken_iff {word : List Char} :
    IsToken definitions word ↔ ∃ t : ReadToken, t.Valid definitions ∧ t.word = word := by
  constructor
  · intro hleft
    obtain ⟨hne, d, hd, hmatches⟩ := hleft
    obtain ⟨id, hid⟩ := List.mem_iff_getElem?.mp hd
    exact ⟨⟨id, word⟩, ⟨hne, d, hid, hmatches⟩, rfl⟩
  · intro hright
    obtain ⟨t, ⟨hne, d, hd, hmatches⟩, rfl⟩ := hright
    exact ⟨hne, d, List.mem_of_getElem? hd, hmatches⟩

theorem isHold_iff {hold : List Char} :
    IsHold limits hold ↔ ∃ held, (held = true → limits.hold = true) ∧ holdText held = hold := by
  constructor
  · intro hleft
    rcases hleft with rfl | ⟨henabled, rfl⟩
    · exact ⟨false, by simp, rfl⟩
    · exact ⟨true, fun _ => henabled, rfl⟩
  · intro hright
    obtain ⟨held, henabled, rfl⟩ := hright
    cases held with
    | false => exact Or.inl rfl
    | true => exact Or.inr ⟨henabled rfl, rfl⟩

theorem isTimes_iff {text : List Char} : IsTimes limits text ↔
    ∃ times, (∀ count ∈ times, limits.AllowsTimes count) ∧ timesText times = text := by
  have hbound : min 9 limits.sequenceLength = limits.largestRepeat := Nat.min_comm _ _
  constructor
  · intro hleft
    rcases hleft with rfl | ⟨hmany, digit, rfl, hdigit, hlow, hhigh⟩
    · exact ⟨none, by simp, rfl⟩
    · rw [hbound] at hhigh
      refine ⟨some (Text.digitValue digit), ?_, ?_⟩
      · intro count hcount
        obtain rfl := Option.mem_some_iff.mp hcount
        exact ⟨hmany, hlow, hhigh⟩
      · show [Nat.digitChar (Text.digitValue digit)] = [digit]
        rw [Text.digitChar_digitValue hdigit]
  · intro hright
    obtain ⟨times, hallowed, rfl⟩ := hright
    cases times with
    | none => exact Or.inl rfl
    | some count =>
      obtain ⟨hmany, hlow, hhigh⟩ := hallowed count rfl
      have hten : count < 10 := by
        have := Nat.min_le_right limits.sequenceLength 9
        rw [Limits.largestRepeat] at hhigh
        omega
      refine Or.inr ⟨hmany, Nat.digitChar count, rfl, Text.isDigit_digitChar count hten, ?_⟩
      rw [Text.digitValue_digitChar count hten, hbound]
      exact ⟨hlow, hhigh⟩

theorem intercalate_plus (word : List Char) (words : List (List Char)) :
    List.intercalate ['+'] (word :: words) = word ++ words.flatMap ('+' :: ·) := by
  induction words generalizing word with
  | nil => rw [List.intercalate_singleton, List.flatMap_nil, List.append_nil]
  | cons next words ih =>
    rw [List.intercalate_cons_cons, ih, List.flatMap_cons, List.append_assoc]
    rfl

/-- The text of a set, as its tokens are joined. -/
theorem ReadSet.text_eq (set : ReadSet) : set.text =
    List.intercalate ['+'] (set.tokens.map ReadToken.word) ++ holdText set.held ++
      timesText set.times := by
  have hmore : moreText set.more = (set.more.map ReadToken.word).flatMap ('+' :: ·) := by
    rw [List.flatMap_map]
    rfl
  rw [ReadSet.tokens, List.map_cons, intercalate_plus, ← hmore]
  simp only [ReadSet.text, SetRest.text, List.append_assoc]

theorem isSet_iff {text : List Char} : IsSet definitions limits text ↔
    ∃ set : ReadSet, set.Valid definitions limits ∧ set.text = text := by
  constructor
  · intro hleft
    obtain ⟨words, hold, times, hpos, hlength, hwords, hhold, htimes, rfl⟩ := hleft
    obtain ⟨tokens, htokens, rfl⟩ := exists_map_eq_iff.mpr fun word hword =>
      isToken_iff.mp (hwords word hword)
    obtain ⟨held, henabled, rfl⟩ := isHold_iff.mp hhold
    obtain ⟨count?, hallowed, rfl⟩ := isTimes_iff.mp htimes
    rw [List.length_map] at hpos hlength
    cases tokens with
    | nil => exact absurd hpos (Nat.not_lt_zero 0)
    | cons first more =>
      have hmore : 1 + more.length ≤ limits.setLength := by
        rw [List.length_cons] at hlength
        omega
      exact ⟨⟨⟨more, held, count?⟩, first⟩, ⟨htokens first List.mem_cons_self,
        ⟨fun t ht => htokens t (List.mem_cons_of_mem first ht), hmore, henabled, hallowed⟩⟩,
        ReadSet.text_eq _⟩
  · intro hright
    obtain ⟨set, hset, rfl⟩ := hright
    refine ⟨set.tokens.map ReadToken.word, holdText set.held, timesText set.times, ?_, ?_, ?_,
      isHold_iff.mpr ⟨set.held, hset.rest.held, rfl⟩,
      isTimes_iff.mpr ⟨set.times, hset.rest.times, rfl⟩, set.text_eq⟩
    · rw [List.length_map, ReadSet.tokens, List.length_cons]
      omega
    · have := hset.rest.length
      rw [List.length_map, ReadSet.tokens, List.length_cons]
      omega
    · intro word hword
      exact isToken_iff.mpr (exists_map_eq_iff.mp ⟨set.tokens, hset.tokens, rfl⟩ word hword)

/-- **The messages are the texts that have a reading.** -/
theorem isMessage_iff_exists_reads {text : List Char} :
    IsMessage definitions limits text ↔ ∃ sets, Reads definitions limits text sets := by
  constructor
  · intro hleft
    obtain ⟨texts, hpos, hlength, hsets, rfl⟩ := hleft
    obtain ⟨sets, hvalid, rfl⟩ := exists_map_eq_iff.mpr fun set hset => isSet_iff.mp (hsets set hset)
    rw [List.length_map] at hpos hlength
    exact ⟨sets, List.length_pos_iff.mp hpos, hlength, hvalid, rfl⟩
  · intro hright
    obtain ⟨sets, hne, hlength, hvalid, rfl⟩ := hright
    refine ⟨sets.map ReadSet.text, ?_, ?_, ?_, rfl⟩
    · rw [List.length_map]
      exact List.length_pos_iff.mpr hne
    · rw [List.length_map]
      exact hlength
    · exact fun set hset => isSet_iff.mpr (exists_map_eq_iff.mp ⟨sets, hvalid, rfl⟩ set hset)

/-! ## The search of a compiled grammar -/

namespace Grammar

variable {g : Grammar}

/-- A compiled grammar finds the first way of the search without any shortcut. -/
theorem captures?_eq_head? (h : compile definitions limits = .ok g) (text : List Char) :
    g.captures? text = (g.exhaustive.derivations text).head? := by
  rw [captures?, Search.captures?_eq_head? g.search_honest, derivations_search h]

/-- What the search finds is the trace of a reading. -/
theorem exists_reads_of_captures? (h : compile definitions limits = .ok g) {text : List Char}
    {captures : List Capture} (hcaptures : g.captures? text = some captures) :
    ∃ sets, Reads definitions limits text sets ∧ captures = Reading.captures 0 sets := by
  rw [captures?_eq_head? h] at hcaptures
  exact (mem_derivations_iff h).mp (List.mem_of_head? hcaptures)

/-- Where there is a reading, the search finds something. -/
theorem captures?_ne_none_of_reads (h : compile definitions limits = .ok g) {text : List Char}
    {sets : Reading} (hreads : Reads definitions limits text sets) : g.captures? text ≠ none := by
  have hmem : Reading.captures 0 sets ∈ g.exhaustive.derivations text :=
    (mem_derivations_iff h).mpr ⟨sets, hreads, rfl⟩
  rw [captures?_eq_head? h, Ne, List.head?_eq_none_iff]
  exact List.ne_nil_of_mem hmem

/-- **The search finds the first of all ways to read a message**, and would find the same without its
memory of failed states.  The ways are listed in the order of the choices, and they are the traces of
the readings of the text, so none is missing. -/
theorem captures?_first_derivation (h : compile definitions limits = .ok g) (text : List Char) :
    g.captures? text = g.search.forgetful.captures? text ∧
    g.captures? text = (g.exhaustive.derivations text).head? ∧
    ∀ trace, trace ∈ g.exhaustive.derivations text ↔
      ∃ sets, Reads definitions limits text sets ∧ trace = Reading.captures 0 sets := by
  refine ⟨?_, captures?_eq_head? h text, fun trace => mem_derivations_iff h⟩
  rw [captures?, Search.captures?_eq_head? g.search_honest,
    Search.captures?_eq_head? g.search.forgetful_honest, Search.derivations_forgetful]

/-- The first way where there are two: `aa` is two sets or one, and two are found. -/
theorem captures?_first_derivation_overlap :
    let definitions : List Definition := [.button "a" "A" true, .button "aa" "B" true]
    let limits : Limits := { sequenceLength := 2 }
    let g : Grammar :=
      ⟨alternativesOf definitions, .ofAlternatives (alternativesOf definitions), limits⟩
    let twice : Reading := [⟨⟨[], false, none⟩, ⟨0, ['a']⟩⟩, ⟨⟨[], false, none⟩, ⟨0, ['a']⟩⟩]
    let once : Reading := [⟨⟨[], false, none⟩, ⟨1, ['a', 'a']⟩⟩]
    compile definitions limits = .ok g ∧
      g.search.forgetful.captures? "aa".toList = some (Reading.captures 0 twice) ∧
      (g.exhaustive.derivations "aa".toList).head? = some (Reading.captures 0 twice) ∧
      Reading.captures 0 once ∈ g.exhaustive.derivations "aa".toList := by
  intro definitions limits g twice once
  have hcompile : compile definitions limits = .ok g := rfl
  have hfound : g.captures? "aa".toList = some (Reading.captures 0 twice) := rfl
  obtain ⟨hforgetful, hfirst, hall⟩ := captures?_first_derivation hcompile "aa".toList
  rw [hfound] at hforgetful hfirst
  have htoken : ReadToken.Valid definitions ⟨1, ['a', 'a']⟩ :=
    ⟨by decide, .button "aa" "B" true, rfl, .literal (by decide)⟩
  have hvalid : ∀ set ∈ once, set.Valid definitions limits := by
    intro set hset
    obtain rfl := List.mem_singleton.mp hset
    exact ⟨htoken, ⟨by simp, by decide, by simp, by simp⟩⟩
  have honce : Reads definitions limits "aa".toList once :=
    ⟨by simp [once], by decide, hvalid, rfl⟩
  exact ⟨hcompile, hforgetful.symm, hfirst.symm, (hall _).mpr ⟨once, honce, rfl⟩⟩

/-- **The search accepts the messages and nothing else.** -/
theorem captures?_isSome_iff_isMessage (h : compile definitions limits = .ok g)
    (text : List Char) : (g.captures? text).isSome ↔ IsMessage definitions limits text := by
  rw [captures?_eq_head? h, List.isSome_head?, isMessage_iff_exists_reads]
  constructor
  · intro hne
    obtain ⟨trace, htrace⟩ := List.exists_mem_of_ne_nil _ hne
    obtain ⟨sets, hreads, _⟩ := (mem_derivations_iff h).mp htrace
    exact ⟨sets, hreads⟩
  · intro hright
    obtain ⟨sets, hreads⟩ := hright
    exact List.ne_nil_of_mem ((mem_derivations_iff h).mpr ⟨sets, hreads, rfl⟩)

/-- A message of two sets, the second with two tokens, a hold marker and a repeat digit. -/
theorem captures?_isSome_iff_isMessage_two_sets :
    let definitions : List Definition := [.button "up" "UP" true, .button "b" "B" true]
    let limits : Limits := { sequenceLength := 5 }
    let g : Grammar :=
      ⟨alternativesOf definitions, .ofAlternatives (alternativesOf definitions), limits⟩
    compile definitions limits = .ok g ∧ (g.captures? "bUp+b-3".toList).isSome := by
  intro definitions limits g
  have hcompile : compile definitions limits = .ok g := rfl
  have hup : IsToken definitions ['U', 'p'] :=
    ⟨by decide, .button "up" "UP" true, by simp [definitions], .literal (by decide)⟩
  have hb : IsToken definitions ['b'] :=
    ⟨by decide, .button "b" "B" true, by simp [definitions], .literal (by decide)⟩
  have hfirst : IsSet definitions limits ['b'] :=
    ⟨[['b']], [], [], by decide, by decide, by simpa using hb, Or.inl rfl, Or.inl rfl, rfl⟩
  have hsecond : IsSet definitions limits "Up+b-3".toList :=
    ⟨[['U', 'p'], ['b']], ['-'], ['3'], by decide, by decide, by simpa using ⟨hup, hb⟩,
      Or.inr ⟨rfl, rfl⟩, Or.inr ⟨by decide, '3', rfl, by decide⟩, rfl⟩
  exact ⟨hcompile, (captures?_isSome_iff_isMessage hcompile _).mpr
    ⟨[['b'], "Up+b-3".toList], by decide, by decide, by simpa using ⟨hfirst, hsecond⟩, rfl⟩⟩

end Grammar

end ChatPad
