import ChatPad.Proofs.Text.SameLetter
import ChatPad.Text.Offset
import ChatPad.Text.WordCase
import Mathlib.Data.String.Defs

/-!
# ASCII case

`Char.toLower` changes the capitals of ASCII and no other character.  What a message is read by does
not tell a capital from its small letter: neither the letter nor its width nor whether it is a digit.
A sign of the grammar is not the lower case of anything but itself.

In a text of ASCII only, the lower case of every character is that of ASCII (`lowercase_of_isAscii`), and
so is the lower case of the text as a whole (`lowercaseText_of_isAscii`).
-/

namespace ChatPad

theorem toList_toLower (text : String) : text.toLower.toList = text.toList.map Char.toLower :=
  String.toList_map

theorem toLower_ofList (word : List Char) :
    String.ofList (word.map Char.toLower) = (String.ofList word).toLower := by
  rw [← String.toList_inj, toList_toLower, String.toList_ofList, String.toList_ofList]

namespace Text

/-- The capitals of ASCII. -/
def capitals : List Char := (List.range' 65 26).map Char.ofNat

theorem toLower_eq_or_mem_capitals (c : Char) : c.toLower = c ∨ c ∈ capitals := by
  by_cases h : c.val ≥ 'A'.val ∧ c.val ≤ 'Z'.val
  · have hlow : 65 ≤ c.toNat := h.1
    have hhigh : c.toNat ≤ 90 := h.2
    exact .inr (List.mem_map.mpr ⟨c.toNat, List.mem_range'_1.mpr (by omega), Char.ofNat_toNat c⟩)
  · exact .inl (dif_neg h)

/-- What agrees for capitals and their small letters agrees for every character and its lower case. -/
theorem toLower_invariant {α : Type} {f : Char → α}
    (h : (capitals.map fun c => f c.toLower) = capitals.map f) (c : Char) : f c.toLower = f c := by
  rcases toLower_eq_or_mem_capitals c with hsame | hcapital
  · rw [hsame]
  · exact List.map_inj_left.mp h c hcapital

theorem lowercase_toLower (c : Char) : lowercase c.toLower = lowercase c :=
  toLower_invariant (by decide) c

theorem isDigit_toLower (c : Char) : isDigit c.toLower = isDigit c :=
  toLower_invariant (by decide) c

theorem utf8Size_toLower (c : Char) : c.toLower.utf8Size = c.utf8Size :=
  toLower_invariant (by decide) c

theorem sameLetter_toLower_self (c : Char) : sameLetter c.toLower c = true :=
  sameLetter_iff.mpr (lowercase_toLower c)

theorem sameLetter_toLower (c d : Char) : sameLetter c.toLower d = sameLetter c d := by
  rw [Bool.eq_iff_iff, sameLetter_iff, sameLetter_iff, lowercase_toLower]

/-- What is no letter is its own lower case. -/
theorem toLower_of_not_isAlphabetic {c : Char} (h : isAlphabetic c = false) : c.toLower = c :=
  eq_of_sameLetter (sameLetter_toLower_self c) h

theorem toLower_of_isDigit {c : Char} (h : isDigit c = true) : c.toLower = c := by
  rcases toLower_eq_or_mem_capitals c with hsame | hcapital
  · exact hsame
  · have hnone : capitals.any isDigit = false := by decide
    exact absurd h (List.any_eq_false.mp hnone c hcapital)

/-- What is no letter is not the lower case of any other character. -/
theorem toLower_eq_iff {c d : Char} (h : isAlphabetic d = false) : c.toLower = d ↔ c = d := by
  constructor
  · rintro rfl
    exact eq_of_sameLetter (sameLetter_symm (sameLetter_toLower_self c)) h
  · rintro rfl
    exact toLower_of_not_isAlphabetic h

theorem toLower_beq {d : Char} (h : isAlphabetic d = false) (c : Char) :
    (c.toLower == d) = (c == d) := by
  rw [Bool.eq_iff_iff, beq_iff_eq, beq_iff_eq, toLower_eq_iff h]

theorem byteLength_toLower (text : List Char) :
    byteLength (text.map Char.toLower) = byteLength text := by
  induction text with
  | nil => rfl
  | cons c rest ih => rw [List.map_cons, byteLength, byteLength, ih, utf8Size_toLower]

theorem head?_toLower_eq_some_iff {d : Char} (h : isAlphabetic d = false) (text : List Char) :
    (text.map Char.toLower).head? = some d ↔ text.head? = some d := by
  rw [List.head?_map, Option.map_eq_some_iff]
  constructor
  · rintro ⟨c, hc, hlower⟩
    rw [hc, (toLower_eq_iff h).mp hlower]
  · intro hd
    exact ⟨d, hd, toLower_of_not_isAlphabetic h⟩

/-- A text without letters is its own lower case. -/
theorem map_toLower_of_not_isAlphabetic {text : List Char}
    (h : ∀ c ∈ text, isAlphabetic c = false) : text.map Char.toLower = text :=
  (List.map_congr_left fun c hc => toLower_of_not_isAlphabetic (h c hc)).trans text.map_id

/-! ## Texts of ASCII -/

/-- A text of ASCII characters only. -/
def IsAscii (text : List Char) : Prop := ∀ c ∈ text, c.isAscii = true

instance (text : List Char) : Decidable (IsAscii text) :=
  List.decidableBAll (fun c : Char => c.isAscii = true) text

theorem lowercase_of_isAscii {c : Char} (h : c.isAscii = true) : lowercase c = [c.toLower] := by
  have hall : ∀ n < 0x80, lowercase (Char.ofNat n) = [(Char.ofNat n).toLower] := by decide
  rw [← Char.ofNat_toNat c]
  exact hall c.toNat (of_decide_eq_true h)

/-- Texts of ASCII are the same letter by letter exactly if they have the same lower case. -/
theorem map_lowercase_eq_iff_of_isAscii {text other : String} (h : IsAscii text.toList)
    (h' : IsAscii other.toList) :
    text.toList.map lowercase = other.toList.map lowercase ↔ text.toLower = other.toLower := by
  have hmap {text : String} (h : IsAscii text.toList) :
      text.toList.map lowercase = text.toLower.toList.map fun c => [c] := by
    rw [toList_toLower, List.map_map]
    exact List.map_congr_left fun c hc => lowercase_of_isAscii (h c hc)
  rw [hmap h, hmap h', List.map_inj_right fun _ _ => List.singleton_inj.mp, String.toList_inj]

/-- The one letter whose lower case depends on its place in a word is not ASCII. -/
theorem lowercaseAfter_of_isAscii {text : List Char} (h : IsAscii text) (before : List Char) :
    lowercaseAfter before text = text.map Char.toLower := by
  induction text generalizing before with
  | nil => rfl
  | cons c rest ih =>
    obtain ⟨hc, hrest⟩ := List.forall_mem_cons.mp h
    have hsigma : c ≠ 'Σ' := by
      rintro rfl
      exact absurd hc (by decide)
    rw [lowercaseAfter, if_neg hsigma, lowercase_of_isAscii hc, ih hrest]
    rfl

theorem lowercaseText_of_isAscii {text : String} (h : IsAscii text.toList) :
    lowercaseText text = text.toLower := by
  rw [lowercaseText, lowercaseAfter_of_isAscii h, toLower_ofList, String.ofList_toList]

end Text

theorem Fragment.beginsWith_toLower (name text : List Char) :
    beginsWith name (text.map Char.toLower) = beginsWith name text := by
  induction name generalizing text with
  | nil => rfl
  | cons expected later ih =>
    cases text with
    | nil => rfl
    | cons actual rest =>
      rw [List.map_cons, beginsWith, beginsWith, ih, Text.sameLetter_toLower]

end ChatPad
