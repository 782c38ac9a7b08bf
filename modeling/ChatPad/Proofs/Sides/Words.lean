import ChatPad.Proofs.Layout.Layers
import ChatPad.Proofs.Parser.SingleToken
import ChatPad.Proofs.Sides.Shortest
import ChatPad.Proofs.Text.AsciiCase
import Mathlib.Data.List.Nodup

/-!
# Words and messages

A word with side letters in front of a name can be recognized in two ways: `KnownNames.resolve` looks
what is left of it up among the known names, all of it at once and in lower case, and a parser reads it
as a message by a grammar that has a button for each name, letter by letter.

* `KnownNames.value_parse`: where a message is one token, the plain parser reads a text exactly as the
  name that it spells;
* `KnownNames.resolve_iff_marked`: so a word is resolved exactly if it is answered as a message, and to
  the same name on the same side.

Names and words are of ASCII here.  Of other texts the lower case is not always that of their letters.
-/

namespace ChatPad

/-- A word matches a name if their letters have the same lower-case spellings, one by one. -/
theorem Fragment.matches_literal_iff {name : String} {word : List Char} :
    Matches (.literal name) word ↔ name.toList.map Text.lowercase = word.map Text.lowercase := by
  rw [← List.forall₂_eq_eq_eq, List.forall₂_map_left_iff, List.forall₂_map_right_iff]
  have hletters (expected actual : Char) : Text.sameLetter actual expected = true ↔
      Text.lowercase expected = Text.lowercase actual :=
    Text.sameLetter_iff.trans eq_comm
  constructor
  · intro h
    cases h with
    | literal h => exact h.imp fun expected actual => (hletters expected actual).mp
  · intro h
    exact .literal (h.imp fun expected actual => (hletters expected actual).mpr)

namespace SidePrefixes

variable {p : SidePrefixes} {word : String} {r : Remainder}

/-- What is left of a word is the end of it. -/
theorem suffix_of_mem_remainders (hr : r ∈ p.remainders word) : r.text.toList <:+ word.toList := by
  rcases List.mem_cons.mp hr with rfl | hr
  · exact List.suffix_rfl
  · split at hr
    · obtain ⟨marks, rest, _, hstrips, rfl⟩ := exists_strips_of_mem hr
      exact ⟨_, by rw [String.toList_ofList, hstrips.text]⟩
    · cases hr

theorem isAscii_of_mem_remainders (hword : Text.IsAscii word.toList) (hr : r ∈ p.remainders word) :
    Text.IsAscii r.text.toList :=
  fun c hc => hword c ((suffix_of_mem_remainders hr).subset hc)

end SidePrefixes

/-! ## Names as messages -/

/-- The message of a name with a side: one set, with the button as it was typed and the marker. -/
def SidedName.message (found : SidedName) (typed : String) : InputSequence :=
  ⟨[⟨[⟨found.button, found.button, typed, .button⟩, found.marker]⟩]⟩

theorem SidedName.eq_of_message {found other : SidedName} {typed typed' : String}
    (h : found.message typed = other.message typed') : found = other := by
  obtain ⟨button, side, direct⟩ := found
  obtain ⟨button', side', direct'⟩ := other
  simp_all [message, marker, Input.sideMarker]

namespace KnownNames

/-- A button for each known name. -/
def definitions (known : KnownNames) : List Definition :=
  known.names.map fun name => .button name name true

/-- The names are of ASCII, none is empty, and no two differ in case only. -/
structure Distinct (known : KnownNames) : Prop where
  ascii : ∀ name ∈ known.names, Text.IsAscii name.toList
  nonempty : ∀ name ∈ known.names, name ≠ ""
  nodup : (known.names.map String.toLower).Nodup

variable {known : KnownNames} {name text : String}

/-! ## One text -/

/-- The name that a text spells is looked up. -/
theorem find?_eq_some_iff (h : known.Distinct) (htext : Text.IsAscii text.toList) :
    known.find? text = some name ↔ name ∈ known.names ∧ name.toLower = text.toLower := by
  have hfound {name : String} (hname : known.find? text = some name) :
      name ∈ known.names ∧ name.toLower = text.toLower := by
    have hmem : name ∈ known.names := List.mem_reverse.mp (List.mem_of_find?_eq_some hname)
    have hlower : (Text.lowercaseText name == Text.lowercaseText text) = true :=
      List.find?_some (p := fun name => Text.lowercaseText name == Text.lowercaseText text) hname
    rw [beq_iff_eq, Text.lowercaseText_of_isAscii (h.ascii name hmem),
      Text.lowercaseText_of_isAscii htext] at hlower
    exact ⟨hmem, hlower⟩
  constructor
  · exact hfound
  · intro hname
    obtain ⟨hmem, hlower⟩ := hname
    have hsome : (known.find? text).isSome = true := by
      refine List.find?_isSome.mpr ⟨name, List.mem_reverse.mpr hmem, beq_iff_eq.mpr ?_⟩
      rw [Text.lowercaseText_of_isAscii (h.ascii name hmem), Text.lowercaseText_of_isAscii htext, hlower]
    obtain ⟨other, hother⟩ := Option.isSome_iff_exists.mp hsome
    -- no other name has this lower case
    have hsame : other = name := List.inj_on_of_nodup_map h.nodup (hfound hother).1 hmem
      ((hfound hother).2.trans hlower.symm)
    rw [hother, hsame]

theorem getElem?_definitions_eq_some_iff {n : Nat} {d : Definition} :
    known.definitions[n]? = some d ↔
      ∃ name, known.names[n]? = some name ∧ d = .button name name true := by
  rw [definitions, List.getElem?_map, Option.map_eq_some_iff]
  simp only [eq_comm]

/-- A token is a word that matches a name. -/
theorem valid_iff (h : known.Distinct) {t : ReadToken} : t.Valid known.definitions ↔
    ∃ name, known.names[t.definition]? = some name ∧
      name.toList.map Text.lowercase = t.word.map Text.lowercase := by
  constructor
  · intro ht
    obtain ⟨d, hd, hmatches⟩ := ht.matched
    obtain ⟨name, hname, rfl⟩ := getElem?_definitions_eq_some_iff.mp hd
    exact ⟨name, hname, Fragment.matches_literal_iff.mp hmatches⟩
  · intro ht
    obtain ⟨name, hname, hletters⟩ := ht
    refine ⟨?_, _, getElem?_definitions_eq_some_iff.mpr ⟨name, hname, rfl⟩,
      Fragment.matches_literal_iff.mpr hletters⟩
    intro hnil
    rw [hnil, List.map_nil, List.map_eq_nil_iff, String.toList_eq_nil_iff] at hletters
    exact h.nonempty name (List.mem_of_getElem? hname) hletters

/-- No two tokens are spelled alike. -/
theorem valid_unique (h : known.Distinct) (t t' : ReadToken) (ht : t.Valid known.definitions)
    (ht' : t'.Valid known.definitions) (hword : t.word = t'.word) : t = t' := by
  obtain ⟨name, hname, hletters⟩ := (valid_iff h).mp ht
  obtain ⟨other, hother, hletters'⟩ := (valid_iff h).mp ht'
  -- the word itself may be of other letters than those of ASCII
  have hlower : name.toLower = other.toLower := by
    rw [← Text.map_lowercase_eq_iff_of_isAscii (h.ascii name (List.mem_of_getElem? hname))
      (h.ascii other (List.mem_of_getElem? hother)), hletters, hletters', hword]
  have hplace : t.definition = t'.definition := by
    obtain ⟨hlength, _⟩ := List.getElem?_eq_some_iff.mp hname
    refine (List.getElem?_inj (by rwa [List.length_map]) h.nodup).mp ?_
    rw [List.getElem?_map, List.getElem?_map, hname, hother, Option.map_some, Option.map_some, hlower]
  cases t
  cases t'
  exact congr (congrArg _ hplace) hword

theorem input?_eq {t : ReadToken} (hname : known.names[t.definition]? = some name) :
    t.input? known.definitions = some ⟨name, name, String.ofList t.word, .button⟩ := by
  rw [ReadToken.input?, getElem?_definitions_eq_some_iff.mpr ⟨name, hname, rfl⟩]
  rfl

/-- **The plain parser reads the name that a text spells.** -/
theorem value_parse (h : known.Distinct) {p : PlainParser}
    (hp : PlainParser.ofDefinitions known.definitions .single = .ok p)
    (htext : Text.IsAscii text.toList) :
    (p.parse text).value = (known.find? text).map fun name => ⟨[⟨[⟨name, name, text, .button⟩]⟩]⟩ := by
  refine Option.ext fun sequence => ?_
  rw [PlainParser.value_parse_eq_some_iff, PlainParser.read_single_iff hp (valid_unique h),
    Option.map_eq_some_iff]
  simp only [find?_eq_some_iff h htext, valid_iff h]
  constructor
  · rintro ⟨t, ⟨name, hname, hletters⟩, hword, i, hi, rfl⟩
    have hmem : name ∈ known.names := List.mem_of_getElem? hname
    rw [hword, Text.map_lowercase_eq_iff_of_isAscii (h.ascii name hmem) htext] at hletters
    rw [input?_eq hname, hword, String.ofList_toList] at hi
    obtain rfl := Option.some.inj hi
    exact ⟨name, ⟨hmem, hletters⟩, rfl⟩
  · rintro ⟨name, ⟨hmem, hlower⟩, rfl⟩
    obtain ⟨n, hname⟩ := List.mem_iff_getElem?.mp hmem
    refine ⟨⟨n, text.toList⟩, ⟨name, hname, ?_⟩, rfl, _, input?_eq hname, ?_⟩
    · exact (Text.map_lowercase_eq_iff_of_isAscii (h.ascii name hmem) htext).mpr hlower
    · rw [String.ofList_toList]

/-! ## One word -/

/-- The first remainder of a word that spells a name, and the name. -/
def found? (known : KnownNames) (word : String) : Option (String × Remainder) :=
  (known.prefixes.remainders word).findSome? fun r => (known.find? r.text).map fun name => (name, r)

theorem resolve_eq (known : KnownNames) (word : String) : known.resolve word =
    (known.found? word).map fun (name, r) => ⟨name, r.side, r.side.isSome⟩ := by
  have hanswer : (known.prefixes.disambiguate (fun text => pure (known.find? text)) word : Id _) =
      SidePrefixes.firstOf known.find? (known.prefixes.remainders word) := by
    rw [SidePrefixes.disambiguate_eq_firstRecognized, SidePrefixes.firstRecognized_pure]
  show Option.map _ (known.prefixes.disambiguate _ word : Id _) = _
  rw [hanswer, SidePrefixes.firstOf, found?, List.map_findSome?, List.map_findSome?]
  simp only [Function.comp_def, Option.map_map]

/-- The remainder spells the name. -/
theorem toLower_of_found? (h : known.Distinct) {word : String} (hword : Text.IsAscii word.toList)
    {r : Remainder} (hfound : known.found? word = some (name, r)) :
    r.text.toLower = name.toLower := by
  obtain ⟨tried, htried, hname⟩ := List.exists_of_findSome?_eq_some hfound
  obtain ⟨_, hfind, hpair⟩ := Option.map_eq_some_iff.mp hname
  obtain ⟨rfl, rfl⟩ := Prod.mk.inj hpair
  have htext := SidePrefixes.isAscii_of_mem_remainders hword htried
  exact ((find?_eq_some_iff h htext).mp hfind).2.symm

/-! ## Words and messages -/

/-- A parser can be built for any names but none at all. -/
theorem exists_ofDefinitions (hne : known.names ≠ []) :
    ∃ p, PlainParser.ofDefinitions known.definitions .single = .ok p := by
  obtain ⟨name, later, hnames⟩ := List.exists_cons_of_ne_nil hne
  rw [definitions, hnames]
  exact ⟨_, rfl⟩

/-- **The layer of sides answers with the first remainder that spells a name.** -/
theorem value_marked (h : known.Distinct) {p : PlainParser}
    (hp : PlainParser.ofDefinitions known.definitions .single = .ok p) {word : String}
    (hword : Text.IsAscii word.toList) : (known.prefixes.marked p.parse word).value =
      (known.found? word).map fun (name, r) =>
        SidedName.message ⟨name, r.side, r.side.isSome⟩ r.text := by
  rw [SidePrefixes.value_marked, found?, List.map_findSome?, ← List.head?_filterMap,
    ← List.head?_filterMap]
  congr 1
  refine List.filterMap_congr fun r hr => ?_
  have htext := SidePrefixes.isAscii_of_mem_remainders hword hr
  rw [value_parse h hp htext, Function.comp_apply, Option.map_map, Option.map_map]
  rfl

/-- **A word is resolved as it is answered.**  If there are no names, no word is resolved and no parser
can be built.  Otherwise a word is resolved to a name and a side exactly if the parser with sides answers
it, and the answer is one set of two inputs: the button of this name, with the text that was typed for
it, and the marker of this side. -/
theorem resolve_iff_marked (h : known.Distinct) {word : String} (hword : Text.IsAscii word.toList) :
    (known.names = [] → known.resolve word = none ∧
      PlainParser.ofDefinitions known.definitions .single = .error .noDefinitions) ∧
    (known.names ≠ [] → ∃ p, PlainParser.ofDefinitions known.definitions .single = .ok p ∧
      (known.resolve word).isSome = (known.prefixes.marked p.parse word).value.isSome ∧
      ∀ found : SidedName, known.resolve word = some found ↔
        ∃ typed, typed.toLower = found.button.toLower ∧
          (known.prefixes.marked p.parse word).value =
            some ⟨[⟨[⟨found.button, found.button, typed, .button⟩,
              .sideMarker found.side found.direct]⟩]⟩) := by
  constructor
  · intro hnames
    constructor
    · rw [resolve_eq, found?, Option.map_eq_none_iff, List.findSome?_eq_none_iff]
      intro r _
      rw [find?, hnames]
      rfl
    · rw [definitions, hnames]
      rfl
  · intro hne
    obtain ⟨p, hp⟩ := exists_ofDefinitions hne
    refine ⟨p, hp, ?_, ?_⟩
    · rw [resolve_eq, value_marked h hp hword, Option.isSome_map, Option.isSome_map]
    · intro found
      rw [resolve_eq, value_marked h hp hword]
      cases hfound : known.found? word with
      | none => simp
      | some first =>
        obtain ⟨name, r⟩ := first
        rw [Option.map_some, Option.map_some]
        constructor
        · intro hsome
          obtain rfl := Option.some.inj hsome
          exact ⟨r.text, toLower_of_found? h hword hfound, rfl⟩
        · intro hanswer
          obtain ⟨typed, _, hmessage⟩ := hanswer
          exact congrArg some (SidedName.eq_of_message (Option.some.inj hmessage))

/-- A name can have the signs of a message in it, and begin like another with its side letter. -/
theorem resolve_iff_marked_signs :
    let known : KnownNames := ⟨["up", "l-up", "x+"], {}⟩
    known.Distinct ∧ Text.IsAscii "L:L-UP".toList ∧
      known.resolve "L:L-UP" = some ⟨"l-up", some .left, true⟩ ∧
      ∃ p typed, PlainParser.ofDefinitions known.definitions .single = .ok p ∧
        (known.prefixes.marked p.parse "L:L-UP").value =
          some ⟨[⟨[⟨"l-up", "l-up", typed, .button⟩, .sideMarker (some .left) true]⟩]⟩ := by
  intro known
  have hdistinct : known.Distinct := ⟨by decide, by decide, by decide +kernel⟩
  have hword : Text.IsAscii "L:L-UP".toList := by decide
  have hresolve : known.resolve "L:L-UP" = some ⟨"l-up", some .left, true⟩ := by decide +kernel
  obtain ⟨p, hp, _, hfound⟩ := (resolve_iff_marked hdistinct hword).2 (by simp [known])
  obtain ⟨typed, _, hanswer⟩ := (hfound _).mp hresolve
  exact ⟨hdistinct, hword, hresolve, p, typed, hp, hanswer⟩

end KnownNames

end ChatPad
