import ChatPad.Proofs.Definition.BuiltIn
import ChatPad.Proofs.Fragment.Language
import ChatPad.Proofs.Text.AsciiCase

/-!
# Fragments that case does not matter to

A name is compared letter by letter whatever its case, and digits have none.  A fragment can tell
capitals from small letters only where it asks for one exact character, so it cannot if every such
character is no letter: then a token ends in the same places in a text and in its lower case
(`Fragment.Caseless.ends_toLower`).  The fragments of built-in definitions are of this kind.
-/

namespace ChatPad

namespace Fragment

/-- The characters that the fragment asks for exactly are no letters. -/
inductive Caseless : Fragment → Prop
  | literal (text : String) : Caseless (.literal text)
  | digits (min max : Nat) : Caseless (.digits min max)
  | digitRange (low high : Nat) : Caseless (.digitRange low high)
  | char {c : Char} : Text.isAlphabetic c = false → Caseless (.char c)
  | seq {parts : List Fragment} : (∀ part ∈ parts, Caseless part) → Caseless (.seq parts)
  | optional {inner : Fragment} : Caseless inner → Caseless (.optional inner)

theorem digitEnds_toLower (min max : Nat) (text : List Char) :
    digitEnds min max (text.map Char.toLower) = digitEnds min max text := by
  have hdigits : Text.isDigit ∘ Char.toLower = Text.isDigit := funext Text.isDigit_toLower
  rw [digitEnds, digitEnds, ← List.map_take, List.takeWhile_map, List.length_map, hdigits]

theorem charEnds_toLower {test : Char → Bool} (htest : ∀ c : Char, test c.toLower = test c)
    (text : List Char) : charEnds test (text.map Char.toLower) = charEnds test text := by
  cases text with
  | nil => rfl
  | cons c rest => rw [List.map_cons, charEnds, charEnds, htest]

/-- Whether a digit lies in a range does not depend on its case, for it has none. -/
theorem digitRange_toLower (low high : Nat) (c : Char) :
    (Text.isDigit c.toLower && low ≤ Text.digitValue c.toLower &&
        Text.digitValue c.toLower ≤ high) =
      (Text.isDigit c && low ≤ Text.digitValue c && Text.digitValue c ≤ high) := by
  cases hdigit : Text.isDigit c with
  | false =>
    rw [Text.isDigit_toLower, hdigit]
    rfl
  | true => rw [Text.toLower_of_isDigit hdigit, hdigit]

/-- A row ends in the same places if this holds of each part. -/
theorem rowEnds_toLower (parts : List Fragment) (text : List Char)
    (hparts : ∀ part ∈ parts, ∀ rest : List Char,
      ends part (rest.map Char.toLower) = ends part rest) : ∀ reached : List Nat,
    rowEnds parts reached (text.map Char.toLower) = rowEnds parts reached text := by
  induction parts with
  | nil => exact fun _ => rfl
  | cons part later ih =>
    intro reached
    obtain ⟨hpart, hlater⟩ := List.forall_mem_cons.mp hparts
    rw [rowEnds, rowEnds, ih hlater]
    simp only [← List.map_drop, hpart]

/-- **A token ends in the same places whatever the case of the text.** -/
theorem Caseless.ends_toLower {f : Fragment} (hf : f.Caseless) :
    ∀ text : List Char, f.ends (text.map Char.toLower) = f.ends text := by
  induction hf with
  | literal name =>
    intro text
    rw [ends, ends, beginsWith_toLower]
  | digits min max =>
    intro text
    rw [ends, ends, digitEnds_toLower]
  | digitRange low high =>
    intro text
    rw [ends, ends, charEnds_toLower (digitRange_toLower low high)]
  | char hletter =>
    intro text
    rw [ends, ends, charEnds_toLower (Text.toLower_beq hletter)]
  | seq _ ih =>
    intro text
    rw [ends, ends, rowEnds_toLower _ _ ih]
  | optional _ ih =>
    intro text
    rw [ends, ends, ih]

end Fragment

theorem Geometry.caseless_pointFragment (g : Geometry) : g.pointFragment.Caseless := by
  refine .seq fun part hpart => ?_
  simp only [List.mem_cons, List.not_mem_nil, or_false] at hpart
  rcases hpart with rfl | rfl | rfl
  · exact .digits _ _
  · exact .char (by decide)
  · exact .digits _ _

/-- **The fragments of built-in definitions ask for no letter exactly.** -/
theorem Definition.BuiltIn.caseless {d : Definition} (hd : d.BuiltIn) : d.fragment.Caseless := by
  induction hd with
  | button name => exact .literal name
  | analog name =>
    have htenths : (Fragment.seq [.char '.', .digitRange 1 9]).Caseless :=
      .seq (by simpa using ⟨.char (by decide), .digitRange 1 9⟩)
    exact .seq (by simpa using ⟨.literal name, .optional htenths⟩)
  | touch _ g => exact g.caseless_pointFragment
  | drag _ g =>
    have hpoint := g.caseless_pointFragment
    exact .seq (by simpa using ⟨hpoint, .char (by decide), hpoint⟩)
  | asTouch _ _ _ _ _ _ ih => exact ih

end ChatPad
