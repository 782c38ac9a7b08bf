import ChatPad.Proofs.Sides.Remainders
import ChatPad.Proofs.Text.SameLetter

/-!
# The shortest prefix of side letters

A text can be written in many ways as side letters, each with a separator after it or none, and a
rest.  Taking letters off goes through those of these ways in which the last letter has its separator,
if one follows it (`SidePrefixes.Strips`): with letters that are no separators themselves, there is one
such way for each number of letters (`SidePrefixes.Strips.of_cons`).

* `SidePrefixes.disambiguate_shortest`: a text is recognized exactly if the rest is in some such way,
  and then the shortest of them counts;
* `SidePrefixes.not_forall_disambiguate_shortest`: a separator right after the last letter is not left
  to the rest, even if the rest would be recognized with it.
-/

namespace ChatPad

/-- One letter of a prefix, and the separator that is typed after it, if there is one. -/
structure SideMark where
  letter : Char
  separator : Option Char := none
deriving DecidableEq, Repr

/-- The text of a mark. -/
def SideMark.text (m : SideMark) : List Char := m.letter :: m.separator.toList

/-- The text of a prefix. -/
def SideMark.texts (marks : List SideMark) : List Char := marks.flatMap SideMark.text

namespace SidePrefixes

/-! ## Ways to write a text -/

/-- The text is side letters, each with one separator after it or none, and then the rest. -/
structure Splits (p : SidePrefixes) (text : List Char) (marks : List SideMark) (rest : List Char) :
    Prop where
  letters : ∀ m ∈ marks, (p.sideOf m.letter).isSome = true
  separators : ∀ m ∈ marks, ∀ c ∈ m.separator, isSeparator c = true
  text : text = SideMark.texts marks ++ rest

/-- The text is split, and the last letter has its separator if one follows it. -/
structure Strips (p : SidePrefixes) (text : List Char) (marks : List SideMark) (rest : List Char) :
    Prop extends p.Splits text marks rest where
  last : ∀ m ∈ marks.getLast?, m.separator = none → ∀ c ∈ rest.head?, isSeparator c = false

/-- The side of the last letter of a prefix, if it has any. -/
def sideAfter (p : SidePrefixes) (marks : List SideMark) : Option Side :=
  marks.getLast?.bind fun m => p.sideOf m.letter

/-- The separator at the front of a text. -/
def leadingSeparator : List Char → Option Char
  | [] => none
  | c :: _ => if isSeparator c then some c else none

theorem leadingSeparator_append (text : List Char) :
    (leadingSeparator text).toList ++ dropSeparator text = text := by
  cases text with
  | nil => rfl
  | cons c rest =>
    rw [leadingSeparator, dropSeparator]
    split <;> rfl

theorem dropSeparator_of_head? {text : List Char} (h : ∀ c ∈ text.head?, isSeparator c = false) :
    leadingSeparator text = none ∧ dropSeparator text = text := by
  cases text with
  | nil => exact ⟨rfl, rfl⟩
  | cons c rest =>
    have hc : ¬ isSeparator c = true := Bool.eq_false_iff.mp (h c rfl)
    exact ⟨if_neg hc, if_neg hc⟩

/-- No separator is a letter of the alphabet. -/
theorem not_isAlphabetic_of_isSeparator {c : Char} (h : isSeparator c = true) :
    Text.isAlphabetic c = false := by
  simp only [isSeparator, Bool.or_eq_true, beq_iff_eq] at h
  rcases h with ((rfl | rfl) | rfl) | rfl <;> decide

variable {p : SidePrefixes} {text rest : List Char} {marks : List SideMark}

/-- The letters of both sides are no separators. -/
def LettersOnly (p : SidePrefixes) : Prop :=
  isSeparator p.left = false ∧ isSeparator p.right = false

instance (p : SidePrefixes) : Decidable p.LettersOnly := inferInstanceAs (Decidable (_ ∧ _))

/-- Then no separator picks a side, in whatever case. -/
theorem LettersOnly.isSeparator_eq_false (hp : p.LettersOnly) {c : Char}
    (hside : (p.sideOf c).isSome = true) : isSeparator c = false := by
  refine Bool.eq_false_iff.mpr fun hseparator => ?_
  have hno (letter : Char) (hletter : isSeparator letter = false) :
      ¬ Text.sameLetter c letter = true := by
    intro hsame
    rw [Text.eq_of_sameLetter (Text.sameLetter_symm hsame)
      (not_isAlphabetic_of_isSeparator hseparator), hseparator] at hletter
    cases hletter
  rw [sideOf, if_neg (hno p.left hp.1), if_neg (hno p.right hp.2)] at hside
  cases hside

namespace Strips

/-- No letters leave the text. -/
theorem nil (text : List Char) : p.Strips text [] text := ⟨⟨nofun, nofun, rfl⟩, nofun⟩

/-- **Taking one letter off**: a way to write what remains is one to write the text. -/
theorem cons {c : Char} (hside : (p.sideOf c).isSome = true)
    (h : p.Strips (dropSeparator text) marks rest) :
    p.Strips (c :: text) (⟨c, leadingSeparator text⟩ :: marks) rest where
  letters := List.forall_mem_cons.mpr ⟨hside, h.letters⟩
  separators := by
    refine List.forall_mem_cons.mpr ⟨?_, h.separators⟩
    cases text with
    | nil => rintro _ ⟨⟩
    | cons d later =>
      intro e he
      rw [leadingSeparator] at he
      split at he
      · obtain rfl := Option.some.inj he
        assumption
      · cases he
  text := by
    rw [SideMark.texts, List.flatMap_cons, List.append_assoc]
    show _ = c :: ((leadingSeparator text).toList ++ (SideMark.texts marks ++ rest))
    rw [← h.text, leadingSeparator_append]
  last := by
    cases marks with
    | cons m later =>
      rw [List.getLast?_cons_cons]
      exact h.last
    | nil =>
      rintro _ ⟨⟩ hnone
      obtain rfl : dropSeparator text = rest := h.text
      cases text with
      | nil => rintro _ ⟨⟩
      | cons d later =>
        rw [leadingSeparator] at hnone
        rw [dropSeparator]
        split at hnone
        · cases hnone
        · rename_i hd
          rw [if_neg hd]
          rintro _ ⟨⟩
          exact Bool.eq_false_iff.mpr hd

/-- **There is no other way**: the first mark is the first letter with its separator, if one follows,
and the later marks are a way to write what remains. -/
theorem of_cons (hp : p.LettersOnly) {c : Char} {m : SideMark}
    (h : p.Strips (c :: text) (m :: marks) rest) :
    (p.sideOf c).isSome = true ∧ m = ⟨c, leadingSeparator text⟩ ∧
      p.Strips (dropSeparator text) marks rest := by
  obtain ⟨letter, separator⟩ := m
  obtain ⟨hside, hletters⟩ := List.forall_mem_cons.mp h.letters
  obtain ⟨hseparator, hseparators⟩ := List.forall_mem_cons.mp h.separators
  have htext : c :: text = letter :: (separator.toList ++ (SideMark.texts marks ++ rest)) := by
    rw [h.text, SideMark.texts, List.flatMap_cons, List.append_assoc]
    rfl
  obtain ⟨rfl, rfl⟩ := List.cons.inj htext
  have hlast : ∀ m ∈ marks.getLast?, m.separator = none → ∀ c ∈ rest.head?, isSeparator c = false := by
    cases marks with
    | nil => nofun
    | cons m later =>
      rw [← List.getLast?_cons_cons (a := ⟨c, separator⟩)]
      exact h.last
  have hrest : p.Strips (SideMark.texts marks ++ rest) marks rest :=
    ⟨⟨hletters, hseparators, rfl⟩, hlast⟩
  cases separator with
  | some s =>
    have hs : isSeparator s = true := hseparator s rfl
    have hleading : leadingSeparator (s :: (SideMark.texts marks ++ rest)) = some s := if_pos hs
    have hdrop : dropSeparator (s :: (SideMark.texts marks ++ rest)) = SideMark.texts marks ++ rest :=
      if_pos hs
    refine ⟨hside, ?_, ?_⟩
    · exact congrArg _ hleading.symm
    · exact hdrop.symm ▸ hrest
  | none =>
    -- what follows a bare letter is the next letter, or the rest
    have hhead : ∀ d ∈ (SideMark.texts marks ++ rest).head?, isSeparator d = false := by
      cases marks with
      | nil => exact h.last _ rfl rfl
      | cons m later =>
        rintro _ ⟨⟩
        exact hp.isSeparator_eq_false (hletters m List.mem_cons_self)
    obtain ⟨hleading, hdrop⟩ := dropSeparator_of_head? hhead
    refine ⟨hside, ?_, ?_⟩
    · exact congrArg _ hleading.symm
    · exact hdrop.symm ▸ hrest

end Strips

/-! ## Taking letters off -/

theorem sideAfter_cons {marks : List SideMark} (m : SideMark) (hne : marks ≠ []) :
    p.sideAfter (m :: marks) = p.sideAfter marks := by
  cases marks with
  | nil => exact absurd rfl hne
  | cons m' later => rw [sideAfter, sideAfter, List.getLast?_cons_cons]

/-- Each remainder is the rest of a way to write the text. -/
theorem exists_strips_of_mem {text : List Char} {r : Remainder} (h : r ∈ p.remaindersAfter text) :
    ∃ marks rest, marks ≠ [] ∧ p.Strips text marks rest ∧
      r = ⟨String.ofList rest, p.sideAfter marks⟩ := by
  induction text using remaindersAfter.induct p with
  | case1 => simp [remaindersAfter] at h
  | case2 c text hside => simp [remaindersAfter, hside] at h
  | case3 c text side hside ih =>
    have hletter : (p.sideOf c).isSome = true := Option.isSome_of_eq_some hside
    rw [remaindersAfter, hside] at h
    rcases List.mem_cons.mp h with rfl | hlater
    · exact ⟨[_], _, List.cons_ne_nil _ _, .cons hletter (.nil _), by rw [← hside]; rfl⟩
    · obtain ⟨marks, rest, hne, hstrips, rfl⟩ := ih hlater
      exact ⟨_ :: marks, rest, List.cons_ne_nil _ _, .cons hletter hstrips,
        by rw [sideAfter_cons _ hne]⟩

section Search

variable {α : Type}

/-- What the first remainder that is recognized is recognized as, and its side. -/
def firstOf (recognize : String → Option α) (rs : List Remainder) : Option (α × Option Side) :=
  rs.findSome? fun r => (recognize r.text).map fun value => (value, r.side)

theorem firstRecognized_pure (recognize : String → Option α) (rs : List Remainder) :
    (firstRecognized (fun text => pure (recognize text)) rs : Id _) = firstOf recognize rs := by
  induction rs with
  | nil => rfl
  | cons r later ih =>
    rw [firstOf, List.findSome?_cons]
    cases hr : recognize r.text with
    | none =>
      rw [firstRecognized, hr, pure_bind]
      exact ih
    | some value =>
      rw [firstRecognized, hr, pure_bind]
      rfl

/-- **The first remainder that is recognized is left by the shortest prefix.**  A way to write the
text begins with the mark that is taken off first; if what then remains is not recognized, each way
goes on, and with the marks of a way to write that. -/
theorem exists_shortest_of_strips (hp : p.LettersOnly) (recognize : String → Option α)
    {text rest : List Char} {marks : List SideMark} (hne : marks ≠ [])
    (h : p.Strips text marks rest) (hrest : (recognize (String.ofList rest)).isSome = true) :
    ∃ marks rest value, p.Strips text marks rest ∧ recognize (String.ofList rest) = some value ∧
      marks ≠ [] ∧ firstOf recognize (p.remaindersAfter text) = some (value, p.sideAfter marks) ∧
      ∀ marks' rest', marks' ≠ [] → p.Strips text marks' rest' →
        (recognize (String.ofList rest')).isSome = true → marks <+: marks' := by
  induction text using remaindersAfter.induct p generalizing marks rest with
  | case1 =>
    obtain ⟨m, later, rfl⟩ := List.exists_cons_of_ne_nil hne
    cases h.text
  | case2 c text hside =>
    obtain ⟨m, later, rfl⟩ := List.exists_cons_of_ne_nil hne
    obtain ⟨hletter, _⟩ := h.of_cons hp
    rw [hside] at hletter
    cases hletter
  | case3 c text side hside ih =>
    obtain ⟨m, later, rfl⟩ := List.exists_cons_of_ne_nil hne
    obtain ⟨hletter, rfl, hlater⟩ := h.of_cons hp
    rw [remaindersAfter, hside, firstOf, List.findSome?_cons]
    cases hfirst : recognize (String.ofList (dropSeparator text)) with
    | some value =>
      refine ⟨[_], _, value, .cons hletter (.nil _), hfirst, List.cons_ne_nil _ _, ?_, ?_⟩
      · rw [← hside]
        rfl
      · intro marks' rest' hne' h' _
        obtain ⟨m', later', rfl⟩ := List.exists_cons_of_ne_nil hne'
        obtain ⟨_, rfl, _⟩ := h'.of_cons hp
        exact ⟨later', rfl⟩
    | none =>
      have hgoesOn {later rest} (h : p.Strips (dropSeparator text) later rest)
          (hrest : (recognize (String.ofList rest)).isSome = true) : later ≠ [] := by
        rintro rfl
        obtain rfl : dropSeparator text = rest := h.text
        rw [hfirst] at hrest
        cases hrest
      obtain ⟨marks, rest, value, hstrips, hvalue, hmarks, hfound, hshortest⟩ :=
        ih (hgoesOn hlater hrest) hlater hrest
      refine ⟨_ :: marks, rest, value, .cons hletter hstrips, hvalue, List.cons_ne_nil _ _, ?_, ?_⟩
      · rw [sideAfter_cons _ hmarks]
        exact hfound
      · intro marks' rest' hne' h' hrest'
        obtain ⟨m', later', rfl⟩ := List.exists_cons_of_ne_nil hne'
        obtain ⟨_, rfl, hlater'⟩ := h'.of_cons hp
        exact (List.prefix_cons_inj _).mpr
          (hshortest later' rest' (hgoesOn hlater' hrest') hlater' hrest')

/-! ## The whole text, or what is left of it -/

/-- The answer for a text, if recognizing does nothing besides. -/
def answer (p : SidePrefixes) (recognize : String → Option α) (text : String) :
    Option (α × Option Side) :=
  Id.run (p.disambiguate (fun rest => pure (recognize rest)) text)

variable {recognize : String → Option α} {text : String}

theorem answer_eq (hallowed : p.allowDirected = true) : p.answer recognize text =
    ((recognize text).map fun value => (value, none)).or
      (firstOf recognize (p.remaindersAfter text.toList)) := by
  rw [answer, disambiguate_eq_firstRecognized, firstRecognized_pure, remainders, if_pos hallowed]
  show firstOf recognize (⟨text, none⟩ :: p.remaindersAfter text.toList) = _
  rw [firstOf, List.findSome?_cons, firstOf]
  cases recognize text <;> rfl

/-- An answer belongs to a way to write the text. -/
theorem exists_strips_of_answer (hallowed : p.allowDirected = true) {value : α} {side : Option Side}
    (h : p.answer recognize text = some (value, side)) : ∃ marks rest,
      p.Strips text.toList marks rest ∧ recognize (String.ofList rest) = some value := by
  rw [answer_eq hallowed] at h
  cases hwhole : recognize text with
  | some whole =>
    rw [hwhole] at h
    obtain rfl := congrArg Prod.fst (Option.some.inj h)
    exact ⟨[], _, .nil _, String.ofList_toList.symm ▸ hwhole⟩
  | none =>
    rw [hwhole] at h
    obtain ⟨r, hr, hfound⟩ := List.exists_of_findSome?_eq_some h
    obtain ⟨marks, rest, _, hstrips, rfl⟩ := exists_strips_of_mem hr
    obtain ⟨found, hrest, hpair⟩ := Option.map_eq_some_iff.mp hfound
    obtain rfl : found = value := congrArg Prod.fst hpair
    exact ⟨marks, rest, hstrips, hrest⟩

/-- If the rest is recognized in some way to write the text, the shortest such way is answered. -/
theorem exists_shortest_answer (hp : p.LettersOnly) (hallowed : p.allowDirected = true)
    {marks : List SideMark} {rest : List Char} (h : p.Strips text.toList marks rest)
    (hrest : (recognize (String.ofList rest)).isSome = true) :
    ∃ marks rest value, p.Strips text.toList marks rest ∧
      recognize (String.ofList rest) = some value ∧
      p.answer recognize text = some (value, p.sideAfter marks) ∧
      ∀ marks' rest', p.Strips text.toList marks' rest' →
        (recognize (String.ofList rest')).isSome = true → marks <+: marks' := by
  rw [answer_eq hallowed]
  cases hwhole : recognize text with
  | some whole =>
    exact ⟨[], text.toList, whole, .nil _, String.ofList_toList.symm ▸ hwhole, rfl,
      fun marks' _ _ _ => List.nil_prefix⟩
  | none =>
    have hne {marks rest} (h : p.Strips text.toList marks rest)
        (hrest : (recognize (String.ofList rest)).isSome = true) : marks ≠ [] := by
      rintro rfl
      obtain rfl : text.toList = rest := h.text
      rw [String.ofList_toList, hwhole] at hrest
      cases hrest
    obtain ⟨marks, rest, value, hstrips, hvalue, _, hfound, hshortest⟩ :=
      exists_shortest_of_strips hp recognize (hne h hrest) h hrest
    exact ⟨marks, rest, value, hstrips, hvalue, hfound, fun marks' rest' h' hrest' =>
      hshortest marks' rest' (hne h' hrest') h' hrest'⟩

/-- **The shortest prefix counts.**  A text is recognized exactly if it is side letters, each with one
separator after it or none, and a rest that is recognized, where no separator follows a last letter
that has none.  Of all such ways to write it, the answer is that of the one with the shortest prefix,
on the side of its last letter. -/
theorem disambiguate_shortest (hp : p.LettersOnly) (hallowed : p.allowDirected = true)
    (recognize : String → Option α) (text : String) :
    ((p.answer recognize text).isSome = true ↔ ∃ marks rest, p.Strips text.toList marks rest ∧
      (recognize (String.ofList rest)).isSome = true) ∧
    ∀ value side, p.answer recognize text = some (value, side) →
      ∃ marks rest, p.Strips text.toList marks rest ∧ recognize (String.ofList rest) = some value ∧
        side = p.sideAfter marks ∧
        ∀ marks' rest', p.Strips text.toList marks' rest' →
          (recognize (String.ofList rest')).isSome = true →
          SideMark.texts marks <+: SideMark.texts marks' := by
  constructor
  · constructor
    · intro hsome
      obtain ⟨⟨value, side⟩, hanswer⟩ := Option.isSome_iff_exists.mp hsome
      obtain ⟨marks, rest, hstrips, hvalue⟩ := exists_strips_of_answer hallowed hanswer
      exact ⟨marks, rest, hstrips, Option.isSome_of_eq_some hvalue⟩
    · rintro ⟨marks, rest, hstrips, hrest⟩
      obtain ⟨_, _, value, _, _, hanswer, _⟩ := exists_shortest_answer hp hallowed hstrips hrest
      exact Option.isSome_of_eq_some hanswer
  · intro value side hanswer
    obtain ⟨_, _, hstrips, hvalue⟩ := exists_strips_of_answer hallowed hanswer
    obtain ⟨marks, rest, first, hstrips, hfirst, hshortest, hall⟩ :=
      exists_shortest_answer hp hallowed hstrips (Option.isSome_of_eq_some hvalue)
    obtain ⟨rfl, rfl⟩ := Prod.mk.inj (Option.some.inj (hanswer.symm.trans hshortest))
    refine ⟨marks, rest, hstrips, hfirst, rfl, fun marks' rest' h' hrest' => ?_⟩
    obtain ⟨later, rfl⟩ := hall marks' rest' h' hrest'
    exact ⟨SideMark.texts later, List.flatMap_append.symm⟩

end Search

/-- After `l.` there is `rup`, and after `l.r` there is `up`; both are known, and the shorter prefix
counts. -/
theorem disambiguate_shortest_two_ways :
    let p : SidePrefixes := {}
    let recognize : String → Option String := fun text => ["up", "rup"].find? (· == text)
    p.LettersOnly ∧ p.allowDirected = true ∧
      p.Strips "l.rup".toList [⟨'l', some '.'⟩, ⟨'r', none⟩] "up".toList ∧
      (p.answer recognize "l.rup").isSome = true ∧
      p.answer recognize "l.rup" = some ("rup", some .left) ∧
      ∃ marks rest, p.Strips "l.rup".toList marks rest ∧
        recognize (String.ofList rest) = some "rup" ∧ some .left = p.sideAfter marks ∧
        SideMark.texts marks <+: "l.r".toList := by
  intro p recognize
  have hletters : p.LettersOnly := by decide
  have hstrips : p.Strips "l.rup".toList [⟨'l', some '.'⟩, ⟨'r', none⟩] "up".toList :=
    ⟨⟨by decide, by simp [isSeparator], rfl⟩, by simp [isSeparator]⟩
  have hanswer : p.answer recognize "l.rup" = some ("rup", some .left) := by decide +kernel
  obtain ⟨hsome, hshortest⟩ := disambiguate_shortest hletters rfl recognize "l.rup"
  obtain ⟨marks, rest, hwritten, hrest, hside, hall⟩ := hshortest _ _ hanswer
  exact ⟨hletters, rfl, hstrips, hsome.mpr ⟨_, _, hstrips, by decide⟩, hanswer, marks, rest, hwritten,
    hrest, hside, hall _ _ hstrips (by decide)⟩

/-- A separator after the last letter is taken off with it: `l:up` is not recognized where only
`:up` is, although it is a letter and then what is known. -/
theorem not_forall_disambiguate_shortest : ¬ ∀ (p : SidePrefixes) (recognize : String → Option String)
    (text : String) (marks : List SideMark) (rest : List Char), p.LettersOnly →
      p.allowDirected = true → p.Splits text.toList marks rest →
      (recognize (String.ofList rest)).isSome = true →
      ∃ marks' rest' value, p.Splits text.toList marks' rest' ∧
        recognize (String.ofList rest') = some value ∧
        p.answer recognize text = some (value, p.sideAfter marks') ∧
        ∀ marks'' rest'', p.Splits text.toList marks'' rest'' →
          (recognize (String.ofList rest'')).isSome = true →
          SideMark.texts marks' <+: SideMark.texts marks'' := by
  intro hall
  let recognize : String → Option String := fun text => [":up"].find? (· == text)
  have hsplits : SidePrefixes.Splits {} "l:up".toList [⟨'l', none⟩] ":up".toList :=
    ⟨by decide, by simp, rfl⟩
  have hnone : SidePrefixes.answer {} recognize "l:up" = none := by decide +kernel
  obtain ⟨_, _, _, _, _, hanswer, _⟩ :=
    hall {} recognize "l:up" _ _ (by decide) rfl hsplits (by decide)
  rw [hnone] at hanswer
  cases hanswer

end SidePrefixes

end ChatPad
