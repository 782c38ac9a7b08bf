import ChatPad.Fragment.Lead

/-!
# Case does not change the class of a character

A name is recognized whatever its case, but the index of a grammar looks only at the class of the
first character of the text.  So a name is found only if the two spellings of a letter fall into one
class.  That is a fact about the two tables of Unicode: everything with a lower-case form is a
letter, and so is that form.

* `spans` walks the table of letters once for a whole run of code points;
* `lowercaseRuns_keepLetters` checks every run of the table of lower-case forms in this way;
* `ofChar_eq_of_sameLetter` is the conclusion for characters.
-/

namespace ChatPad

namespace Text

/-! ## Runs inside a table of ranges -/

/-- Whether all code points from `low` to `high` are found in one and the same range of a table. -/
def spans : List (Nat × Nat) → Nat → Nat → Bool
  | [], _, _ => false
  | (first, last) :: later, low, high =>
    Nat.ble first low && (Nat.ble high last || (Nat.ble (last + 1) low && spans later low high))

theorem inRanges_of_spans (table : List (Nat × Nat)) {low high c : Nat}
    (h : spans table low high = true) (hlow : low ≤ c) (hhigh : c ≤ high) :
    inRanges table c = true := by
  induction table with
  | nil => simp [spans] at h
  | cons range later ih =>
    obtain ⟨first, last⟩ := range
    simp only [spans, Bool.and_eq_true, Bool.or_eq_true, Nat.ble_eq] at h
    obtain ⟨hfirst, hin⟩ := h
    rw [inRanges, if_neg (by omega)]
    rcases hin with hlast | ⟨hlast, hlater⟩
    · rw [if_pos (by omega)]
    · rw [if_neg (by omega)]
      exact ih hlater

theorem exists_mem_of_inRanges (table : List (Nat × Nat)) {c : Nat} (h : inRanges table c = true) :
    ∃ range ∈ table, range.1 ≤ c ∧ c ≤ range.2 := by
  induction table with
  | nil => simp [inRanges] at h
  | cons range later ih =>
    obtain ⟨first, last⟩ := range
    rw [inRanges] at h
    split at h
    · simp at h
    · split at h
      · exact ⟨(first, last), List.mem_cons_self, by simp only; omega⟩
      · obtain ⟨range, hmem, hin⟩ := ih h
        exact ⟨range, List.mem_cons_of_mem _ hmem, hin⟩

/-! ## The table of letters -/

/-- No range of letters reaches down to the decimal digits or into the surrogates. -/
theorem alphabeticRanges_valid : ∀ range ∈ alphabeticRanges,
    0x41 ≤ range.1 ∧ (range.2 < 0xD800 ∨ 0xDFFF < range.1 ∧ range.2 < 0x110000) := by
  decide +kernel

theorem toNat_ofNat_of_alphabetic {n : Nat} (h : inRanges alphabeticRanges n = true) :
    (Char.ofNat n).toNat = n := by
  obtain ⟨range, hmem, hlow, hhigh⟩ := exists_mem_of_inRanges _ h
  have hrange := alphabeticRanges_valid range hmem
  have hvalid : n.isValidChar := by
    unfold Nat.isValidChar
    omega
  rw [Char.ofNat, dif_pos hvalid]
  rfl

theorem not_isDigit_of_isAlphabetic {c : Char} (h : isAlphabetic c = true) : isDigit c = false := by
  obtain ⟨range, hmem, hlow, _⟩ := exists_mem_of_inRanges _ h
  have hrange := (alphabeticRanges_valid range hmem).1
  have hnine : ¬ c ≤ '9' := by
    rw [Char.le_def, UInt32.le_iff_toNat_le]
    show ¬ c.toNat ≤ 57
    omega
  simp [isDigit, hnine]

/-! ## The table of lower-case forms -/

/-- Whether the code points `first`, `first + step`, … up to `last` are letters: all in one range, or
each in some range. -/
def areLetters (first last step : Nat) : Bool :=
  spans alphabeticRanges first last ||
    (List.range ((last - first) / step + 1)).all fun k =>
      spans alphabeticRanges (first + k * step) (first + k * step)

theorem inRanges_of_areLetters {first last step c : Nat} (h : areLetters first last step = true)
    (hfirst : first ≤ c) (hlast : c ≤ last) (hstep : (c - first) % step = 0) :
    inRanges alphabeticRanges c = true := by
  rw [areLetters, Bool.or_eq_true] at h
  rcases h with h | h
  · exact inRanges_of_spans _ h hfirst hlast
  · have hk : (c - first) / step < (last - first) / step + 1 :=
      Nat.lt_succ_of_le (Nat.div_le_div_right (by omega))
    have hc : first + (c - first) / step * step = c := by
      rw [Nat.div_mul_cancel (Nat.dvd_of_mod_eq_zero hstep)]
      omega
    have hspan := List.all_eq_true.mp h _ (List.mem_range.mpr hk)
    rw [hc] at hspan
    exact inRanges_of_spans _ hspan (Nat.le_refl c) (Nat.le_refl c)

/-- **Everything with a lower-case form is a letter, and so is that form.** -/
theorem lowercaseRuns_areLetters : (lowercaseRuns.all fun (first, last, step, lower) =>
    areLetters first last step && areLetters lower (lower + (last - first)) step) = true := by
  decide +kernel

/-- A look-up leaves a code point alone or finds it in a run. -/
theorem lookUpRun_cases (runs : List (Nat × Nat × Nat × Nat)) (c : Nat) :
    lookUpRun runs c = c ∨ ∃ first last step lower, (first, last, step, lower) ∈ runs ∧
      first ≤ c ∧ c ≤ last ∧ (c - first) % step = 0 ∧
      lookUpRun runs c = lower + (c - first) := by
  induction runs with
  | nil => exact Or.inl rfl
  | cons run later ih =>
    obtain ⟨first, last, step, lower⟩ := run
    rw [lookUpRun]
    split
    · exact Or.inl rfl
    · split
      · rename_i hfirst hrun
        exact Or.inr ⟨first, last, step, lower, List.mem_cons_self, by omega, hrun.1, hrun.2, rfl⟩
      · rcases ih with h | ⟨first', last', step', lower', hmem, hrun⟩
        · exact Or.inl h
        · exact Or.inr ⟨first', last', step', lower', List.mem_cons_of_mem _ hmem, hrun⟩

/-- A character is its own lower-case form, or both are letters. -/
theorem lookUpRun_lowercaseRuns (c : Nat) : lookUpRun lowercaseRuns c = c ∨
    inRanges alphabeticRanges c = true ∧
      inRanges alphabeticRanges (lookUpRun lowercaseRuns c) = true := by
  rcases lookUpRun_cases lowercaseRuns c with
    h | ⟨first, last, step, lower, hmem, hfirst, hlast, hstep, h⟩
  · exact Or.inl h
  · have hletters := List.all_eq_true.mp lowercaseRuns_areLetters _ hmem
    simp only [Bool.and_eq_true] at hletters
    refine Or.inr ⟨inRanges_of_areLetters hletters.1 hfirst hlast hstep, ?_⟩
    rw [h]
    refine inRanges_of_areLetters hletters.2 (by omega) (by omega) ?_
    rw [Nat.add_sub_cancel_left]
    exact hstep

end Text

/-! ## The class of a character -/

theorem LeadClass.ofChar_of_isDigit {c : Char} (h : Text.isDigit c = true) :
    LeadClass.ofChar c = .digit := by
  rw [LeadClass.ofChar, if_pos h]

theorem LeadClass.ofChar_of_isAlphabetic {c : Char} (h : Text.isAlphabetic c = true) :
    LeadClass.ofChar c = .letter := by
  rw [LeadClass.ofChar, if_neg (by simp [Text.not_isDigit_of_isAlphabetic h]), if_pos h]

/-- The first character of a lower-case form has the class of the character. -/
theorem LeadClass.exists_lowercase_eq (c : Char) : ∃ d rest,
    Text.lowercase c = d :: rest ∧ LeadClass.ofChar d = LeadClass.ofChar c := by
  rw [Text.lowercase]
  split
  · rename_i hdotted
    have hc : Text.isAlphabetic c = true := by
      rw [Text.isAlphabetic, hdotted]
      decide
    refine ⟨'i', ['\u0307'], rfl, ?_⟩
    rw [ofChar_of_isAlphabetic hc, ofChar_of_isAlphabetic (by decide)]
  · refine ⟨_, [], rfl, ?_⟩
    rcases Text.lookUpRun_lowercaseRuns c.toNat with h | ⟨hc, hlower⟩
    · rw [h, Char.ofNat_toNat]
    · have hd : Text.isAlphabetic (Char.ofNat (Text.lookUpRun Text.lowercaseRuns c.toNat)) = true := by
        rw [Text.isAlphabetic, Text.toNat_ofNat_of_alphabetic hlower]
        exact hlower
      rw [ofChar_of_isAlphabetic hd, ofChar_of_isAlphabetic hc]

/-- **Case does not change the class of a character.** -/
theorem LeadClass.ofChar_eq_of_sameLetter {a b : Char} (h : Text.sameLetter a b = true) :
    LeadClass.ofChar a = LeadClass.ofChar b := by
  rw [Text.sameLetter, Bool.or_eq_true, beq_iff_eq, beq_iff_eq] at h
  rcases h with h | h
  · rw [h]
  · obtain ⟨d, rest, ha, hd⟩ := exists_lowercase_eq a
    obtain ⟨e, rest', hb, he⟩ := exists_lowercase_eq b
    have hde : d = e := by
      rw [ha, hb] at h
      exact (List.cons.inj h).1
    rw [← hd, ← he, hde]

end ChatPad
