import ChatPad.Proofs.Fragment.Language
import ChatPad.Proofs.Text.LetterClass

/-!
# What the lead of a fragment promises

`Fragment.lead` looks at a fragment alone.  Here it is compared with the language of the fragment: a
fragment is called nullable exactly if its language has the empty text, and the first character of every
other text of its language falls into one of the lead classes.  An alternative that is left out because
of its lead could therefore not have matched.

* `Fragment.nullable_of_matches_nil`, `Fragment.matches_nil_of_nullable`,
  `Fragment.has_ofChar_of_matches_cons`: over the language;
* `Fragment.zero_mem_ends_iff`, `Fragment.exists_cons_of_mem_ends`: over the ends that the search
  enumerates, where whether a token can be empty does not depend on the text behind it;
* `Fragment.worthTrying_of_mem_ends`: both together.
-/

namespace ChatPad

theorem LeadSet.has_union (a b : LeadSet) (c : LeadClass) :
    (a.union b).has c = (a.has c || b.has c) := by
  cases c <;> rfl

theorem LeadSet.has_only_self (c : LeadClass) : (LeadSet.only c).has c = true := by
  cases c <;> rfl

namespace Fragment

/-- The lead of a row is that of its first part, with that of the rest if the first part can be
empty. -/
theorem lead_seq_cons (part : Fragment) (later : List Fragment) :
    (lead (.seq (part :: later))).nullable = (part.lead.nullable && (lead (.seq later)).nullable) ∧
      ∀ c, (lead (.seq (part :: later))).classes.has c =
        (part.lead.classes.has c || (part.lead.nullable && (lead (.seq later)).classes.has c)) := by
  simp only [lead, rowLead]
  cases part.lead.nullable with
  | false => simp
  | true => simp [LeadSet.has_union]

/-- A fragment with an empty text is nullable. -/
theorem nullable_of_matches_nil {f : Fragment} (h : f.Matches []) : f.lead.nullable = true := by
  generalize hword : ([] : List Char) = word at h
  induction h with
  | @literal name word hletters =>
    subst hword
    rw [lead, List.forall₂_nil_right_iff.mp hletters]
  | digits hmin _ _ =>
    subst hword
    simpa [lead] using hmin
  | digitRange => cases hword
  | char => cases hword
  | seqNil => rfl
  | seqCons _ _ ihfirst ihrest =>
    obtain ⟨hfirst, hrest⟩ := List.append_eq_nil_iff.mp hword.symm
    rw [(lead_seq_cons _ _).1, ihfirst hfirst.symm, ihrest hrest.symm]
    rfl
  | absent => rfl
  | present _ _ => rfl

/-- A nullable row has nullable parts only, and so the empty text. -/
theorem matches_nil_of_nullable_row {parts : List Fragment}
    (hparts : ∀ part ∈ parts, part.lead.nullable = true → part.Matches [])
    (h : (lead (.seq parts)).nullable = true) : Matches (.seq parts) [] := by
  induction parts with
  | nil => exact .seqNil
  | cons part later ih =>
    obtain ⟨hpart, hlater⟩ := List.forall_mem_cons.mp hparts
    rw [(lead_seq_cons part later).1, Bool.and_eq_true] at h
    exact .seqCons (hpart h.1) (ih hlater h.2)

/-- A nullable fragment has the empty text. -/
theorem matches_nil_of_nullable {f : Fragment} (h : f.lead.nullable = true) : f.Matches [] := by
  induction f using Fragment.induction with
  | literal name =>
    refine .literal ?_
    rw [lead] at h
    cases hname : name.toList with
    | nil => exact .nil
    | cons c later =>
      rw [hname] at h
      cases h
  | digits min max =>
    have hmin : min = 0 := by simpa [lead] using h
    exact .digits (by simp [hmin]) (by simp) (by simp)
  | digitRange low high => cases h
  | char c => cases h
  | seq parts ih => exact matches_nil_of_nullable_row ih h
  | optional inner _ => exact .absent

/-- **A token can be empty in front of every text, or of none**, and the lead tells which. -/
theorem zero_mem_ends_iff (f : Fragment) (text : List Char) :
    0 ∈ f.ends text ↔ f.lead.nullable = true := by
  rw [mem_ends_iff, List.take_zero]
  constructor
  · intro h
    exact nullable_of_matches_nil h.2
  · intro h
    exact ⟨Nat.zero_le _, matches_nil_of_nullable h⟩

/-- The first character of a text falls into a lead class of its fragment. -/
theorem has_ofChar_of_matches_cons {f : Fragment} {c : Char} {rest : List Char}
    (h : f.Matches (c :: rest)) : f.lead.classes.has (.ofChar c) = true := by
  generalize hword : c :: rest = word at h
  induction h generalizing rest with
  | @literal name word hletters =>
    subst hword
    obtain ⟨expected, later, hsame, _, hname⟩ := List.forall₂_cons_right_iff.mp hletters
    rw [lead, hname]
    show (LeadSet.only (.ofChar expected)).has (.ofChar c) = true
    rw [LeadClass.ofChar_eq_of_sameLetter hsame]
    exact LeadSet.has_only_self _
  | digits _ _ hdigits =>
    subst hword
    rw [lead, LeadClass.ofChar_of_isDigit (hdigits c List.mem_cons_self)]
    rfl
  | digitRange hdigit _ _ =>
    obtain ⟨rfl, _⟩ := List.cons.inj hword
    rw [lead, LeadClass.ofChar_of_isDigit hdigit]
    rfl
  | char =>
    obtain ⟨rfl, _⟩ := List.cons.inj hword
    rw [lead]
    exact LeadSet.has_only_self _
  | seqNil => cases hword
  | @seqCons part later first word hfirst _ ihfirst ihrest =>
    rw [(lead_seq_cons _ _).2]
    cases first with
    | nil =>
      -- the first part is empty here, so the class comes from the rest of the row
      rw [nullable_of_matches_nil hfirst, ihrest hword]
      simp
    | cons d first =>
      obtain ⟨rfl, _⟩ := List.cons.inj hword
      rw [ihfirst rfl, Bool.true_or]
  | absent => cases hword
  | @present inner word _ ih => exact ih hword

/-- Where a token is not empty, it begins with a character of a lead class. -/
theorem exists_cons_of_mem_ends {f : Fragment} {text : List Char} {n : Nat} (h : n ∈ f.ends text)
    (hn : 0 < n) : ∃ c rest, text = c :: rest ∧ f.lead.classes.has (.ofChar c) = true := by
  obtain ⟨hlength, hmatches⟩ := (mem_ends_iff f text n).mp h
  cases text with
  | nil =>
    simp only [List.length_nil] at hlength
    omega
  | cons c rest =>
    cases n with
    | zero => omega
    | succ n => exact ⟨c, rest, rfl, has_ofChar_of_matches_cons hmatches⟩

/-- Whether a token of this shape can begin in front of a text, as far as its lead tells. -/
def worthTrying (f : Fragment) : List Char → Bool
  | [] => f.lead.nullable
  | c :: _ => f.lead.nullable || f.lead.classes.has (.ofChar c)

/-- **No end is lost by looking at the lead first.** -/
theorem worthTrying_of_mem_ends {f : Fragment} {text : List Char} {n : Nat} (h : n ∈ f.ends text) :
    f.worthTrying text = true := by
  cases n with
  | zero =>
    have hnullable := (zero_mem_ends_iff f text).mp h
    cases text <;> simp [worthTrying, hnullable]
  | succ n =>
    obtain ⟨c, rest, rfl, hc⟩ := exists_cons_of_mem_ends h (Nat.succ_pos n)
    simp [worthTrying, hc]

end Fragment

end ChatPad
