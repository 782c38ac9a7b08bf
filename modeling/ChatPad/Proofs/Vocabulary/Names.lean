import ChatPad.Proofs.Fragment.Language
import ChatPad.Proofs.Message.Unambiguous
import ChatPad.Proofs.Text.SameLetter

/-!
# Vocabularies of names

A vocabulary of names has buttons and analog inputs only.  A token of it is a name, spelled in any
case, and for an analog input tenths may follow (`Name.Spells`).

* `Name.exists_read_of_spells`: every such token is read, as a press of the button that the name
  stands for, with the token as its text;
* `DistinctNames.unambiguous`: if no name begins another, and none begins with a sign of the grammar,
  the tokens can be told apart.
-/

namespace ChatPad

/-! ## Tenths -/

/-- The strengths that can be typed: a full press, and one to nine tenths of it. -/
def strengths : List Single := .one :: (List.range' 1 9).map fun tenths => .nearest false tenths 10

theorem strengths_isFraction : ∀ s ∈ strengths, s.isFraction = true := by decide +kernel

/-- **Strengths that can be typed are close to no other one.** -/
theorem strengths_isClose_iff : ∀ a ∈ strengths, ∀ b ∈ strengths, (a.isClose b = true ↔ a = b) := by
  decide +kernel

/-- What may follow the name of an analog input: nothing, or a point and a digit but zero. -/
inductive IsTenths : List Char → Prop
  | full : IsTenths []
  | tenths {digit : Char} : Text.isDigit digit = true → 1 ≤ Text.digitValue digit →
      Text.digitValue digit ≤ 9 → IsTenths ['.', digit]

theorem mem_strengths_of_digit {tenths : Nat} (hlow : 1 ≤ tenths) (hhigh : tenths ≤ 9) :
    Single.nearest false tenths 10 ∈ strengths :=
  List.mem_cons_of_mem _ (List.mem_map.mpr ⟨tenths, List.mem_range'_1.mpr ⟨hlow, by omega⟩, rfl⟩)

theorem exists_suffixStrength {suffix : List Char} (h : IsTenths suffix) :
    ∃ s ∈ strengths, Definition.suffixStrength suffix = some s := by
  cases h with
  | full => exact ⟨.one, List.mem_cons_self, rfl⟩
  | @tenths digit hdigit hlow hhigh =>
    have hrange : '1' ≤ digit ∧ digit ≤ '9' := by
      rw [← Text.digitChar_digitValue hdigit]
      generalize Text.digitValue digit = tenths at hlow hhigh
      have hall : ∀ n < 10, 1 ≤ n → '1' ≤ Nat.digitChar n ∧ Nat.digitChar n ≤ '9' := by decide
      exact hall tenths (by omega) hlow
    exact ⟨_, mem_strengths_of_digit hlow hhigh, if_pos hrange⟩

/-- Tenths are told by the next character, unless another point follows. -/
theorem IsTenths.unique {suffix suffix' rest rest' : List Char} (h : IsTenths suffix)
    (h' : IsTenths suffix') (hrest : Pointless rest) (hrest' : Pointless rest')
    (htext : suffix ++ rest = suffix' ++ rest') : suffix = suffix' := by
  cases h with
  | full =>
    cases h' with
    | full => rfl
    | tenths => exact absurd (congrArg List.head? htext) hrest
  | tenths =>
    cases h' with
    | full => exact absurd (congrArg List.head? htext.symm) hrest'
    | tenths =>
      obtain ⟨hdigit, _⟩ := List.cons.inj (List.cons.inj htext).2
      rw [hdigit]

/-- A press, full or in part, as a name can express it. -/
def InputKind.IsPress (kind : InputKind) : Prop :=
  kind = .button ∨ ∃ s, kind = .analog s ∧ s.value ∈ strengths

/-! ## Names -/

/-- A name of a button or an analog input, the button it stands for, and whether it is displayed
itself. -/
structure Name where
  text : String
  target : String
  keepsName : Bool := true
  isAnalog : Bool := false
deriving DecidableEq, Repr

namespace Name

/-- The definition of a name. -/
def definition (name : Name) : Definition :=
  if name.isAnalog then .analog name.text name.target name.keepsName
  else .button name.text name.target name.keepsName

/-- A token of a name: its letters in any case, and tenths if it is analog. -/
def Spells (name : Name) (word : List Char) : Prop :=
  ∃ letters suffix, word = letters ++ suffix ∧ letters.length = name.text.toList.length ∧
    Fragment.beginsWith name.text.toList letters = true ∧ IsTenths suffix ∧
    (name.isAnalog = false → suffix = [])

variable {name : Name} {word : List Char}

theorem isTenths_of_matches {suffix : List Char}
    (h : (Fragment.optional (.seq [.char '.', .digitRange 1 9])).Matches suffix) :
    IsTenths suffix := by
  cases h with
  | absent => exact .full
  | present h =>
    cases h with
    | seqCons hpoint hlater =>
      cases hpoint
      cases hlater with
      | seqCons hdigit hnil =>
        cases hnil
        cases hdigit with
        | digitRange hdigit hlow hhigh => exact .tenths hdigit hlow hhigh

theorem letters_of_matches {letters : List Char}
    (h : (Fragment.literal name.text).Matches letters) :
    letters.length = name.text.toList.length ∧
      Fragment.beginsWith name.text.toList letters = true := by
  cases h with
  | literal hletters =>
    have hlength := hletters.length_eq
    refine ⟨hlength.symm, (Fragment.beginsWith_iff _ _).mpr ⟨by omega, ?_⟩⟩
    rw [hlength, List.take_length]
    exact hletters

/-- The tokens of the definition of a name spell it. -/
theorem spells_of_matches (h : name.definition.fragment.Matches word) : name.Spells word := by
  cases hanalog : name.isAnalog with
  | false =>
    rw [definition, hanalog] at h
    obtain ⟨hlength, hletters⟩ := letters_of_matches h
    exact ⟨word, [], (List.append_nil word).symm, hlength, hletters, .full, fun _ => rfl⟩
  | true =>
    rw [definition, hanalog] at h
    cases h with
    | @seqCons _ _ letters _ hliteral hlater =>
      cases hlater with
      | @seqCons _ _ suffix _ hoptional hnil =>
        cases hnil
        obtain ⟨hlength, hletters⟩ := letters_of_matches hliteral
        refine ⟨letters, suffix, by rw [List.append_nil], hlength, hletters,
          isTenths_of_matches hoptional, ?_⟩
        rw [hanalog]
        exact nofun

/-- **Every token of a name is read**, with the token as its text. -/
theorem exists_read_of_spells (h : name.Spells word) : ∃ kind : InputKind, kind.IsPress ∧
    name.definition.read (String.ofList word) =
      some ⟨if name.keepsName then name.text else name.target, name.target, String.ofList word,
        kind⟩ := by
  obtain ⟨letters, suffix, rfl, hlength, hletters, htenths, hbutton⟩ := h
  cases hanalog : name.isAnalog with
  | false => exact ⟨.button, .inl rfl, by rw [definition, hanalog]; rfl⟩
  | true =>
    obtain ⟨s, hs, hstrength⟩ := exists_suffixStrength htenths
    refine ⟨.analog ⟨s, strengths_isFraction s hs⟩, .inr ⟨_, rfl, hs⟩, ?_⟩
    have hdrop : (letters ++ suffix).drop name.text.toList.length = suffix := by
      rw [← hlength, List.drop_left]
    rw [definition, hanalog, if_pos rfl, Definition.analog]
    dsimp only
    rw [String.toList_ofList, hdrop, hstrength, Fragment.beginsWith_append hletters]
    show (Input.analog? _ _ _ s).toOption = _
    rw [Input.analog?, dif_pos (strengths_isFraction s hs)]
    rfl

end Name

/-! ## Names that can be told apart -/

/-- No sign is a letter, so no spelling of a letter is a sign. -/
theorem not_isAlphabetic_of_isSign {c : Char} (h : IsSign c) : Text.isAlphabetic c = false := by
  rcases h with rfl | rfl | rfl | hdigit
  · decide
  · decide
  · decide
  · by_contra hletter
    rw [Bool.not_eq_false] at hletter
    rw [Text.not_isDigit_of_isAlphabetic hletter] at hdigit
    cases hdigit

/-- No name is empty or begins with a sign of the grammar, and none begins another. -/
structure DistinctNames (names : List Name) : Prop where
  ne_empty : ∀ name ∈ names, name.text ≠ ""
  fresh : ∀ name ∈ names, Fresh name.text.toList
  apart : names.Pairwise fun a b => Fragment.beginsWith a.text.toList b.text.toList = false ∧
    Fragment.beginsWith b.text.toList a.text.toList = false

instance (names : List Name) : Decidable (DistinctNames names) :=
  decidable_of_iff ((∀ name ∈ names, name.text ≠ "") ∧ (∀ name ∈ names, Fresh name.text.toList) ∧
    names.Pairwise fun a b => Fragment.beginsWith a.text.toList b.text.toList = false ∧
      Fragment.beginsWith b.text.toList a.text.toList = false)
    ⟨fun h => ⟨h.1, h.2.1, h.2.2⟩, fun h => ⟨h.ne_empty, h.fresh, h.apart⟩⟩

/-- The definitions of a vocabulary of names. -/
def definitionsOf (names : List Name) : List Definition := names.map Name.definition

variable {names : List Name}

/-- A token of a vocabulary spells one of its names. -/
theorem exists_spells_of_valid {t : ReadToken} (ht : t.Valid (definitionsOf names)) :
    ∃ name, names[t.definition]? = some name ∧ name.Spells t.word := by
  obtain ⟨d, hd, hmatches⟩ := ht.matched
  rw [definitionsOf, List.getElem?_map] at hd
  obtain ⟨name, hname, rfl⟩ := Option.map_eq_some_iff.mp hd
  exact ⟨name, hname, Name.spells_of_matches hmatches⟩

namespace DistinctNames

variable (h : DistinctNames names)

include h

/-- Names of which one begins the other are the same. -/
theorem index_eq {i j : Nat} {a b : Name} (ha : names[i]? = some a) (hb : names[j]? = some b)
    (hbegins : Fragment.beginsWith a.text.toList b.text.toList = true ∨
      Fragment.beginsWith b.text.toList a.text.toList = true) : i = j := by
  obtain ⟨hi, rfl⟩ := List.getElem?_eq_some_iff.mp ha
  obtain ⟨hj, rfl⟩ := List.getElem?_eq_some_iff.mp hb
  have hapart := List.pairwise_iff_getElem.mp h.apart
  rcases Nat.lt_trichotomy i j with hlt | heq | hlt
  · have := hapart i j hi hj hlt
    simp [this] at hbegins
  · exact heq
  · have := hapart j i hj hi hlt
    simp [this] at hbegins

/-- A token begins as its name does, in some case, and so with no sign. -/
theorem fresh_of_spells {name : Name} (hname : name ∈ names) {word : List Char}
    (hspells : name.Spells word) : Fresh word := by
  obtain ⟨letters, suffix, rfl, hlength, hletters, _, _⟩ := hspells
  have hne := h.ne_empty name hname
  have hfresh := h.fresh name hname
  cases hname' : name.text.toList with
  | nil => exact absurd (String.toList_eq_nil_iff.mp hname') hne
  | cons c later =>
    rw [hname'] at hfresh hletters hlength
    cases letters with
    | nil => cases hlength
    | cons d letters =>
      rintro e ⟨⟩ hsign
      rw [Fragment.beginsWith, Bool.and_eq_true] at hletters
      have hsame : c = d := Text.eq_of_sameLetter (Text.sameLetter_symm hletters.1)
        (not_isAlphabetic_of_isSign hsign)
      rw [← hsame] at hsign
      exact hfresh c rfl hsign

/-- **The tokens of distinct names can be told apart.** -/
theorem unambiguous : Unambiguous (definitionsOf names) where
  fresh t ht := by
    obtain ⟨name, hname, hspells⟩ := exists_spells_of_valid ht
    exact h.fresh_of_spells (List.mem_of_getElem? hname) hspells
  unique := by
    intro t t' ht ht' rest rest' hrest hrest' htext
    obtain ⟨name, hname, letters, suffix, hword, hlength, hletters, htenths, _⟩ :=
      exists_spells_of_valid ht
    obtain ⟨name', hname', letters', suffix', hword', hlength', hletters', htenths', _⟩ :=
      exists_spells_of_valid ht'
    rw [hword, hword', List.append_assoc, List.append_assoc] at htext
    have hbegins := Fragment.beginsWith_append hletters (suffix ++ rest)
    have hbegins' := Fragment.beginsWith_append hletters' (suffix' ++ rest')
    rw [← htext] at hbegins'
    have hdefinition := h.index_eq hname hname' (Fragment.beginsWith_of_both hbegins hbegins')
    rw [hdefinition, hname'] at hname
    obtain rfl := Option.some.inj hname
    obtain ⟨rfl, hsuffix⟩ := List.append_inj htext (hlength.trans hlength'.symm)
    obtain rfl := htenths.unique htenths' hrest hrest' hsuffix
    cases t
    cases t'
    rw [ReadToken.mk.injEq]
    exact ⟨hdefinition, hword.trans hword'.symm⟩

end DistinctNames

end ChatPad
