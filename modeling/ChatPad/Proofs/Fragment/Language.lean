import ChatPad.Fragment
import Mathlib.Data.List.Forall2

/-!
# The language of a fragment

`f.Matches word` says, without any search, that `word` is a token of the shape `f`.  The ends that
`Fragment.ends` enumerates are exactly the ends of such tokens:

* `Fragment.mem_ends_iff`: `n` is an end if and only if the first `n` characters are a token.

The proof follows the fragment; a row of fragments is followed from all the places that its parts
have reached so far, so `mem_rowEnds_iff` speaks about a set of places and not about one.
-/

namespace ChatPad.Fragment

/-- The texts of a fragment. -/
inductive Matches : Fragment → List Char → Prop
  | literal {name : String} {word : List Char} :
      List.Forall₂ (fun expected actual => Text.sameLetter actual expected = true)
        name.toList word → Matches (.literal name) word
  | digits {min max : Nat} {word : List Char} :
      min ≤ word.length → word.length ≤ max → (∀ c ∈ word, Text.isDigit c = true) →
      Matches (.digits min max) word
  | digitRange {low high : Nat} {c : Char} :
      Text.isDigit c = true → low ≤ Text.digitValue c → Text.digitValue c ≤ high →
      Matches (.digitRange low high) [c]
  | char {c : Char} : Matches (.char c) [c]
  | seqNil : Matches (.seq []) []
  | seqCons {part : Fragment} {later : List Fragment} {first rest : List Char} :
      Matches part first → Matches (.seq later) rest → Matches (.seq (part :: later)) (first ++ rest)
  | absent {inner : Fragment} : Matches (.optional inner) []
  | present {inner : Fragment} {word : List Char} :
      Matches inner word → Matches (.optional inner) word

/-- Induction over a fragment: a row is reached from all of its parts. -/
@[elab_as_elim]
theorem induction {motive : Fragment → Prop} (literal : ∀ text, motive (.literal text))
    (digits : ∀ min max, motive (.digits min max))
    (digitRange : ∀ low high, motive (.digitRange low high)) (char : ∀ c, motive (.char c))
    (seq : ∀ parts, (∀ part ∈ parts, motive part) → motive (.seq parts))
    (optional : ∀ inner, motive inner → motive (.optional inner)) : ∀ f, motive f
  | .literal text => literal text
  | .digits min max => digits min max
  | .digitRange low high => digitRange low high
  | .char c => char c
  | .seq parts =>
    seq parts fun part _ => induction literal digits digitRange char seq optional part
  | .optional inner =>
    optional inner (induction literal digits digitRange char seq optional inner)

/-! ## Single parts -/

theorem beginsWith_iff (name text : List Char) : beginsWith name text = true ↔
    name.length ≤ text.length ∧
      List.Forall₂ (fun expected actual => Text.sameLetter actual expected = true)
        name (text.take name.length) := by
  induction name generalizing text with
  | nil => simp [beginsWith]
  | cons expected later ih =>
    cases text with
    | nil => simp [beginsWith]
    | cons actual rest =>
      rw [beginsWith, Bool.and_eq_true, ih]
      simp only [List.length_cons, List.take_succ_cons, List.forall₂_cons, Nat.add_le_add_iff_right]
      constructor
      · intro hleft
        obtain ⟨hletter, hlength, hlater⟩ := hleft
        exact ⟨hlength, hletter, hlater⟩
      · intro hright
        obtain ⟨hlength, hletter, hlater⟩ := hright
        exact ⟨hletter, hlength, hlater⟩

theorem mem_literalEnds_iff (name : String) (text : List Char) (n : Nat) :
    n ∈ ends (.literal name) text ↔
      n ≤ text.length ∧ Matches (.literal name) (text.take n) := by
  rw [ends]
  constructor
  · intro h
    split at h
    · rename_i hbegins
      obtain ⟨hlength, hletters⟩ := (beginsWith_iff _ _).mp hbegins
      rw [List.mem_singleton.mp h]
      exact ⟨hlength, .literal hletters⟩
    · cases h
  · intro hright
    obtain ⟨hlength, hmatches⟩ := hright
    cases hmatches with
    | literal hletters =>
      have hn : name.toList.length = n := by
        rw [hletters.length_eq, List.length_take, Nat.min_eq_left hlength]
      rw [if_pos ((beginsWith_iff _ _).mpr ⟨by omega, by rw [hn]; exact hletters⟩), hn]
      exact List.mem_singleton_self n

theorem le_length_takeWhile_iff {α : Type} (p : α → Bool) (l : List α) (n : Nat) :
    n ≤ (l.takeWhile p).length ↔ n ≤ l.length ∧ ∀ a ∈ l.take n, p a = true := by
  induction l generalizing n with
  | nil => simp
  | cons a l ih =>
    cases n with
    | zero => simp
    | succ n =>
      by_cases ha : p a = true
      · simp [List.takeWhile_cons_of_pos ha, ih, ha]
      · simp [List.takeWhile_cons_of_neg ha, ha]

theorem mem_digitEnds_iff (min max : Nat) (text : List Char) (n : Nat) :
    n ∈ ends (.digits min max) text ↔
      n ≤ text.length ∧ Matches (.digits min max) (text.take n) := by
  have hrange : n ∈ digitEnds min max text ↔
      min ≤ n ∧ n ≤ ((text.take max).takeWhile Text.isDigit).length := by
    rw [digitEnds, List.mem_reverse, List.mem_range'_1]
    omega
  rw [ends, hrange, le_length_takeWhile_iff, List.length_take, List.take_take]
  constructor
  · intro hleft
    obtain ⟨hmin, hn, hdigits⟩ := hleft
    rw [Nat.min_eq_left (by omega)] at hdigits
    refine ⟨by omega, .digits ?_ ?_ hdigits⟩
    · rw [List.length_take]
      omega
    · rw [List.length_take]
      omega
  · intro hright
    obtain ⟨hlength, hmatches⟩ := hright
    cases hmatches with
    | digits hmin hmax hdigits =>
      rw [List.length_take, Nat.min_eq_left hlength] at hmin hmax
      rw [Nat.min_eq_left hmax]
      exact ⟨hmin, by omega, hdigits⟩

theorem mem_charEnds_iff (test : Char → Bool) (text : List Char) (n : Nat) :
    n ∈ charEnds test text ↔ n ≤ text.length ∧ ∃ c, test c = true ∧ text.take n = [c] := by
  cases text with
  | nil => simp [charEnds]
  | cons c rest =>
    rw [charEnds]
    constructor
    · intro h
      split at h
      · rename_i htest
        rw [List.mem_singleton.mp h]
        exact ⟨by simp, c, htest, rfl⟩
      · cases h
    · intro hright
      obtain ⟨hlength, d, htest, htake⟩ := hright
      cases n with
      | zero => simp at htake
      | succ n =>
        rw [List.take_succ_cons] at htake
        obtain ⟨rfl, hrest⟩ := List.cons.inj htake
        have hn : n = 0 := by
          have := congrArg List.length hrest
          simp only [List.length_take, List.length_nil, List.length_cons] at this hlength
          omega
        rw [if_pos htest, hn]
        exact List.mem_singleton_self 1

/-! ## Rows -/

theorem matches_seq_cons_iff (part : Fragment) (later : List Fragment) (word : List Char) :
    Matches (.seq (part :: later)) word ↔
      ∃ i ≤ word.length, Matches part (word.take i) ∧ Matches (.seq later) (word.drop i) := by
  constructor
  · intro h
    cases h with
    | @seqCons _ _ first rest hfirst hrest =>
      refine ⟨first.length, by simp, ?_, ?_⟩
      · rw [List.take_left]
        exact hfirst
      · rw [List.drop_left]
        exact hrest
  · intro hright
    obtain ⟨i, _, hfirst, hrest⟩ := hright
    rw [← List.take_append_drop i word]
    exact .seqCons hfirst hrest

/-- Where a part leads to from the places `reached`. -/
theorem mem_reached_iff {part : Fragment} {text : List Char} {reached : List Nat}
    (hpart : ∀ (rest : List Char) (i : Nat),
      i ∈ ends part rest ↔ i ≤ rest.length ∧ Matches part (rest.take i))
    (hreached : ∀ m ∈ reached, m ≤ text.length) (k : Nat) :
    k ∈ (reached.flatMap fun m => (ends part (text.drop m)).map (m + ·)).eraseDups ↔
      ∃ m ∈ reached, ∃ i, k = m + i ∧ m + i ≤ text.length ∧
        Matches part ((text.drop m).take i) := by
  rw [List.mem_eraseDups, List.mem_flatMap]
  refine exists_congr fun m => and_congr_right fun hm => ?_
  rw [List.mem_map]
  constructor
  · intro hleft
    obtain ⟨i, hi, rfl⟩ := hleft
    obtain ⟨hlength, hmatches⟩ := (hpart _ _).mp hi
    rw [List.length_drop] at hlength
    have hmlength := hreached m hm
    exact ⟨i, rfl, by omega, hmatches⟩
  · intro hright
    obtain ⟨i, rfl, hlength, hmatches⟩ := hright
    refine ⟨i, (hpart _ _).mpr ⟨?_, hmatches⟩, rfl⟩
    rw [List.length_drop]
    omega

/-- The empty row has no text but the empty one. -/
theorem matches_seq_nil_iff {text : List Char} {m n : Nat} (hn : n ≤ text.length) (hle : m ≤ n) :
    Matches (.seq []) ((text.take n).drop m) ↔ m = n := by
  constructor
  · intro hmatches
    cases hempty : (text.take n).drop m with
    | nil =>
      have hlength := List.drop_eq_nil_iff.mp hempty
      rw [List.length_take, Nat.min_eq_left hn] at hlength
      exact Nat.le_antisymm hle hlength
    | cons c rest =>
      rw [hempty] at hmatches
      cases hmatches
  · intro hsame
    rw [hsame, List.drop_of_length_le (List.length_take_le n text)]
    exact .seqNil

/-- The ends of a row from the places `reached` are the ends of its texts that begin at one of
them, if this holds of each part. -/
theorem mem_rowEnds_iff (parts : List Fragment) (text : List Char) (n : Nat)
    (hparts : ∀ part ∈ parts, ∀ (rest : List Char) (i : Nat),
      i ∈ ends part rest ↔ i ≤ rest.length ∧ Matches part (rest.take i)) :
    ∀ reached : List Nat, (∀ m ∈ reached, m ≤ text.length) →
      (n ∈ rowEnds parts reached text ↔ n ≤ text.length ∧
        ∃ m ∈ reached, m ≤ n ∧ Matches (.seq parts) ((text.take n).drop m)) := by
  induction parts with
  | nil =>
    intro reached hreached
    rw [rowEnds]
    constructor
    · intro h
      have hn := hreached n h
      exact ⟨hn, n, h, Nat.le_refl n, (matches_seq_nil_iff hn (Nat.le_refl n)).mpr rfl⟩
    · intro hright
      obtain ⟨hn, m, hm, hle, hmatches⟩ := hright
      rw [← (matches_seq_nil_iff hn hle).mp hmatches]
      exact hm
  | cons part later ih =>
    intro reached hreached
    have hnext := mem_reached_iff (hparts part List.mem_cons_self) hreached
    have hnextLength : ∀ k ∈ (reached.flatMap fun m =>
        (ends part (text.drop m)).map (m + ·)).eraseDups, k ≤ text.length := by
      intro k hk
      obtain ⟨m, _, i, rfl, hlength, _⟩ := (hnext k).mp hk
      exact hlength
    rw [rowEnds, ih (fun part hmem => hparts part (List.mem_cons_of_mem _ hmem)) _ hnextLength]
    refine and_congr_right fun hn => ?_
    constructor
    · intro hleft
      obtain ⟨k, hk, hle, hlater⟩ := hleft
      obtain ⟨m, hm, i, rfl, _, hfirst⟩ := (hnext k).mp hk
      refine ⟨m, hm, by omega, (matches_seq_cons_iff _ _ _).mpr ⟨i, ?_, ?_, ?_⟩⟩
      · rw [List.length_drop, List.length_take]
        omega
      · rw [List.drop_take, List.take_take, Nat.min_eq_left (by omega)]
        exact hfirst
      · rw [List.drop_drop]
        exact hlater
    · intro hright
      obtain ⟨m, hm, hle, hmatches⟩ := hright
      obtain ⟨i, hi, hfirst, hlater⟩ := (matches_seq_cons_iff _ _ _).mp hmatches
      rw [List.length_drop, List.length_take] at hi
      rw [List.drop_take, List.take_take, Nat.min_eq_left (by omega)] at hfirst
      rw [List.drop_drop] at hlater
      exact ⟨m + i, (hnext _).mpr ⟨m, hm, i, rfl, by omega, hfirst⟩, by omega, hlater⟩

/-! ## All fragments -/

/-- **The ends of a fragment are the ends of its texts.** -/
theorem mem_ends_iff (f : Fragment) (text : List Char) (n : Nat) :
    n ∈ f.ends text ↔ n ≤ text.length ∧ f.Matches (text.take n) := by
  induction f using Fragment.induction generalizing text n with
  | literal name => exact mem_literalEnds_iff name text n
  | digits min max => exact mem_digitEnds_iff min max text n
  | digitRange low high =>
    rw [ends, mem_charEnds_iff]
    refine and_congr_right fun _ => ?_
    constructor
    · intro hleft
      obtain ⟨c, htest, htake⟩ := hleft
      simp only [Bool.and_eq_true, decide_eq_true_eq] at htest
      rw [htake]
      exact .digitRange htest.1.1 htest.1.2 htest.2
    · intro hmatches
      generalize text.take n = word at hmatches
      cases hmatches with
      | digitRange hdigit hlow hhigh => exact ⟨_, by simp [hdigit, hlow, hhigh], rfl⟩
  | char c =>
    rw [ends, mem_charEnds_iff]
    refine and_congr_right fun _ => ?_
    constructor
    · intro hleft
      obtain ⟨d, htest, htake⟩ := hleft
      rw [htake, beq_iff_eq.mp htest]
      exact .char
    · intro hmatches
      generalize text.take n = word at hmatches
      cases hmatches with
      | char => exact ⟨c, beq_self_eq_true c, rfl⟩
  | seq parts ih =>
    rw [ends, mem_rowEnds_iff parts text n ih [0] (by simp)]
    refine and_congr_right fun _ => ?_
    simp
  | optional inner ih =>
    rw [ends, List.mem_eraseDups, List.mem_append, List.mem_singleton, ih]
    constructor
    · intro hleft
      rcases hleft with ⟨hn, hmatches⟩ | rfl
      · exact ⟨hn, .present hmatches⟩
      · exact ⟨Nat.zero_le _, .absent⟩
    · intro hright
      obtain ⟨hn, hmatches⟩ := hright
      generalize hword : text.take n = word at hmatches
      cases hmatches with
      | absent =>
        right
        have := congrArg List.length hword
        rw [List.length_take, List.length_nil] at this
        omega
      | present hinner => exact Or.inl ⟨hn, hinner⟩

instance (f : Fragment) (word : List Char) : Decidable (f.Matches word) :=
  decidable_of_iff (word.length ∈ f.ends word) (by simp [mem_ends_iff])

end ChatPad.Fragment
