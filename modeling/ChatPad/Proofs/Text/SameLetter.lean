import ChatPad.Fragment
import ChatPad.Proofs.Text.LetterClass

/-!
# The same letter

Two characters are the same letter if their lower-case spellings agree, which is an equivalence.  A
character that is no letter is the same as itself only: the signs and digits of the grammar are never
spelled differently.  For texts, one may begin with another whatever its case:

* `Fragment.beginsWith_of_both`: of two names that a text begins with, one begins with the other.
-/

namespace ChatPad

namespace Text

variable {a b c : Char}

theorem sameLetter_iff : sameLetter a b = true ↔ lowercase a = lowercase b := by
  rw [sameLetter, Bool.or_eq_true, beq_iff_eq, beq_iff_eq]
  constructor
  · rintro (rfl | h)
    · rfl
    · exact h
  · exact Or.inr

theorem sameLetter_symm (h : sameLetter a b = true) : sameLetter b a = true :=
  sameLetter_iff.mpr (sameLetter_iff.mp h).symm

theorem sameLetter_trans (h : sameLetter a b = true) (h' : sameLetter b c = true) :
    sameLetter a c = true :=
  sameLetter_iff.mpr ((sameLetter_iff.mp h).trans (sameLetter_iff.mp h'))

/-- What is no letter has no lower-case form but itself. -/
theorem lowercase_of_not_isAlphabetic (h : isAlphabetic c = false) : lowercase c = [c] := by
  have hdotted : c.toNat ≠ 0x130 := by
    intro hdotted
    rw [isAlphabetic, hdotted] at h
    revert h
    decide
  rw [lowercase, if_neg hdotted]
  rcases lookUpRun_lowercaseRuns c.toNat with hsame | ⟨hletter, _⟩
  · rw [hsame, Char.ofNat_toNat]
  · rw [isAlphabetic, hletter] at h
    cases h

theorem isAlphabetic_eq_of_sameLetter (h : sameLetter a b = true) :
    isAlphabetic a = isAlphabetic b := by
  -- the class of a character tells whether it is a letter
  have hclass (c : Char) : isAlphabetic c = true ↔ LeadClass.ofChar c = .letter := by
    constructor
    · exact LeadClass.ofChar_of_isAlphabetic
    · intro hletter
      rw [LeadClass.ofChar] at hletter
      split at hletter
      · cases hletter
      · split at hletter
        · assumption
        · cases hletter
  rw [Bool.eq_iff_iff, hclass, hclass, LeadClass.ofChar_eq_of_sameLetter h]

/-- **What is no letter is the same as itself only.** -/
theorem eq_of_sameLetter (h : sameLetter a b = true) (hb : isAlphabetic b = false) : a = b := by
  have ha : isAlphabetic a = false := by rw [isAlphabetic_eq_of_sameLetter h, hb]
  have hlower := sameLetter_iff.mp h
  rw [lowercase_of_not_isAlphabetic ha, lowercase_of_not_isAlphabetic hb] at hlower
  exact (List.cons.inj hlower).1

end Text

/-! ## Beginnings of texts -/

namespace Fragment

variable {name other text : List Char}

/-- Of two names that a text begins with, the shorter is one that the longer begins with. -/
theorem beginsWith_of_both (h : beginsWith name text = true) (h' : beginsWith other text = true) :
    beginsWith name other = true ∨ beginsWith other name = true := by
  induction name generalizing other text with
  | nil => exact Or.inl rfl
  | cons c name ih =>
    cases other with
    | nil => exact Or.inr rfl
    | cons d other =>
      cases text with
      | nil => cases h
      | cons e text =>
        rw [beginsWith, Bool.and_eq_true] at h h'
        have hsame : Text.sameLetter c d = true :=
          Text.sameLetter_trans (Text.sameLetter_symm h.1) h'.1
        simp only [beginsWith, hsame, Text.sameLetter_symm hsame, Bool.true_and]
        exact ih h.2 h'.2

theorem beginsWith_append (h : beginsWith name text = true) (more : List Char) :
    beginsWith name (text ++ more) = true := by
  induction name generalizing text with
  | nil => rfl
  | cons c name ih =>
    cases text with
    | nil => cases h
    | cons d text =>
      rw [beginsWith, Bool.and_eq_true] at h
      rw [List.cons_append, beginsWith, h.1, ih h.2, Bool.true_and]

end Fragment

end ChatPad
