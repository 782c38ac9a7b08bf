import ChatPad.Proofs.Parser.Plain

/-!
# Messages of one token

Where a message has one set, a set one input, and nothing is held, a message is a token and nothing
else (`reads_single_iff`).  It is read as that token is, if no other definition matches it
(`PlainParser.read_single_iff`), and so always if there is one definition only
(`PlainParser.parse_lone_iff`).
-/

namespace ChatPad

/-- One set of one input, which is not held. -/
def Limits.single : Limits := ⟨1, 1, false⟩

/-- The reading of a message that is this token. -/
def ReadToken.alone (t : ReadToken) : Reading := [⟨⟨[], false, none⟩, t⟩]

variable {definitions : List Definition}

theorem ReadToken.valid_alone {t : ReadToken} (ht : t.Valid definitions) :
    ∀ set ∈ t.alone, set.Valid definitions .single := by
  refine List.forall_mem_singleton.mpr ⟨ht, ⟨nofun, Nat.le_refl 1, nofun, nofun⟩⟩

theorem ReadToken.text_alone (t : ReadToken) : Reading.text t.alone = t.word :=
  (List.append_nil _).trans (List.append_nil _)

/-- **A message is one token**, where the limits leave no room for more. -/
theorem reads_single_iff {text : List Char} {sets : Reading} :
    Reads definitions .single text sets ↔
      ∃ t : ReadToken, t.Valid definitions ∧ t.word = text ∧ sets = t.alone := by
  constructor
  · intro h
    obtain ⟨set, rfl⟩ : ∃ set, sets = [set] := by
      refine List.length_eq_one_iff.mp (Nat.le_antisymm h.length ?_)
      exact List.length_pos_iff.mpr h.ne_nil
    obtain ⟨⟨more, held, times⟩, t⟩ := set
    have hset := h.valid _ List.mem_cons_self
    obtain rfl : more = [] := by
      refine List.length_eq_zero_iff.mp (Nat.le_zero.mp ?_)
      exact Nat.le_of_add_le_add_left hset.rest.length
    obtain rfl : held = false := by
      cases held with
      | false => rfl
      | true => exact absurd (hset.rest.held rfl) Bool.false_ne_true
    obtain rfl : times = none := by
      cases times with
      | none => rfl
      | some count => exact absurd (hset.rest.times count rfl).1 (Nat.lt_irrefl 1)
    exact ⟨t, hset.first, h.text.trans t.text_alone |>.symm, rfl⟩
  · rintro ⟨t, ht, rfl, rfl⟩
    exact ⟨List.cons_ne_nil _ _, Nat.le_refl 1, t.valid_alone ht, t.text_alone.symm⟩

theorem ReadToken.played_alone {t : ReadToken} {i : Input} (hi : t.input? definitions = some i) :
    Reading.played definitions t.alone = [⟨[i]⟩] := by
  show [(⟨[t].filterMap (ReadToken.input? definitions) ++ []⟩ : InputSet)] = _
  rw [List.filterMap_cons_some hi, List.filterMap_nil, List.append_nil]

namespace PlainParser

variable {p : PlainParser} {text : String} {sequence : InputSequence}

/-- **A message of one token is read as its token is**, if no two tokens are spelled alike. -/
theorem read_single_iff (hp : ofDefinitions definitions .single = .ok p)
    (hunique : ∀ t t' : ReadToken, t.Valid definitions → t'.Valid definitions → t.word = t'.word →
      t = t') : p.read text = .ok sequence ↔ ∃ t : ReadToken, t.Valid definitions ∧
        t.word = text.toList ∧ ∃ i, t.input? definitions = some i ∧ sequence = ⟨[⟨[i]⟩]⟩ := by
  constructor
  · intro h
    obtain ⟨sets, hreads, hread, _, rfl⟩ := exists_reads_of_read hp h
    obtain ⟨t, ht, hword, rfl⟩ := reads_single_iff.mp hreads
    obtain ⟨i, hi⟩ := Option.isSome_iff_exists.mp
      (hread _ List.mem_cons_self t List.mem_cons_self)
    exact ⟨t, ht, hword, i, hi, by rw [ReadToken.played_alone hi]⟩
  · rintro ⟨t, ht, hword, i, hi, rfl⟩
    obtain ⟨g, hg, rfl⟩ := ofDefinitions_eq_ok_iff.mp hp
    have hreads := reads_single_iff.mpr ⟨t, ht, hword, rfl⟩
    obtain ⟨captures, hcaptures⟩ := Option.ne_none_iff_exists'.mp
      (Grammar.captures?_ne_none_of_reads hg hreads)
    obtain ⟨sets, hreads', rfl⟩ := Grammar.exists_reads_of_captures? hg hcaptures
    obtain ⟨t', ht', hword', rfl⟩ := reads_single_iff.mp hreads'
    obtain rfl := hunique t t' ht ht' (hword.trans hword'.symm)
    refine (read_eq_ok_iff hg).mpr ⟨_, hcaptures,
      (assemble_captures_eq_ok_iff hreads.valid).mpr ⟨?_, ?_, ?_⟩⟩
    · refine List.forall_mem_singleton.mpr (List.forall_mem_singleton.mpr ?_)
      exact Option.isSome_of_eq_some hi
    · rw [ReadToken.played_alone hi]
      exact Nat.le_refl 1
    · rw [ReadToken.played_alone hi]

end PlainParser

/-! ## One definition -/

variable {d : Definition}

theorem ReadToken.valid_lone_iff {t : ReadToken} :
    t.Valid [d] ↔ t.word ≠ [] ∧ t = ⟨0, t.word⟩ ∧ d.fragment.Matches t.word := by
  obtain ⟨n, word⟩ := t
  constructor
  · intro ht
    obtain ⟨d', hd', hmatches⟩ := ht.matched
    cases n with
    | zero =>
      obtain rfl := Option.some.inj hd'
      exact ⟨ht.ne_nil, rfl, hmatches⟩
    | succ n => cases hd'
  · rintro ⟨hne, hzero, hmatches⟩
    exact ⟨hne, d, by rw [hzero]; rfl, hmatches⟩

theorem PlainParser.exists_ofDefinitions_lone (d : Definition) :
    ∃ p, ofDefinitions [d] .single = .ok p := ⟨_, rfl⟩

/-- **With one definition, a message is accepted if it matches as a whole and is read.** -/
theorem PlainParser.parse_lone_iff {p : PlainParser} (hp : ofDefinitions [d] .single = .ok p)
    {text : String} {sequence : InputSequence} : (p.parse text).value = some sequence ↔
      text ≠ "" ∧ d.fragment.Matches text.toList ∧
        ∃ i, d.read text = some i ∧ sequence = ⟨[⟨[i]⟩]⟩ := by
  have hunique (t t' : ReadToken) (ht : t.Valid [d]) (ht' : t'.Valid [d]) (hword : t.word = t'.word) :
      t = t' := by
    rw [(ReadToken.valid_lone_iff.mp ht).2.1, (ReadToken.valid_lone_iff.mp ht').2.1, hword]
  have hread : ReadToken.input? [d] ⟨0, text.toList⟩ = d.read text := by
    rw [← congrArg d.read String.ofList_toList]
    rfl
  rw [value_parse_eq_some_iff, read_single_iff hp hunique]
  constructor
  · rintro ⟨t, ht, hword, i, hi, rfl⟩
    obtain ⟨hne, hzero, hmatches⟩ := ReadToken.valid_lone_iff.mp ht
    rw [hzero, hword, hread] at hi
    rw [hword] at hne hmatches
    exact ⟨fun hempty => hne (String.toList_eq_nil_iff.mpr hempty), hmatches, i, hi, rfl⟩
  · rintro ⟨hne, hmatches, i, hi, rfl⟩
    refine ⟨⟨0, text.toList⟩, ReadToken.valid_lone_iff.mpr ⟨?_, rfl, hmatches⟩, rfl, i, ?_, rfl⟩
    · exact fun hnil => hne (String.toList_eq_nil_iff.mp hnil)
    · exact hread.trans hi

end ChatPad
