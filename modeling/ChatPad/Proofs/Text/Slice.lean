import ChatPad.Text.Offset

/-!
# Slices

A slice of a text is given by two byte offsets, and there is one only if both fall between
characters.  `slice?_eq_some_iff` says this without offsets: the text is what stands before the slice,
the slice, and what stands after it.
-/

namespace ChatPad.Text

variable {text word rest : List Char} {offset start stop : Nat}

/-- The length in bytes is that of the UTF-8 form. -/
theorem byteLength_eq_utf8ByteSize (text : List Char) :
    byteLength text = (String.ofList text).utf8ByteSize := by
  induction text with
  | nil => rfl
  | cons c text ih =>
    rw [String.ofList_cons, String.utf8ByteSize_append, String.utf8ByteSize_singleton, ← ih]
    rfl

theorem byteLength_toList (text : String) : byteLength text.toList = text.utf8ByteSize := by
  rw [byteLength_eq_utf8ByteSize, String.ofList_toList]

theorem after?_zero (text : List Char) : after? text 0 = some text := by
  cases text <;> rfl

theorem after?_cons (c : Char) (text : List Char) (hpos : offset ≠ 0) : after? (c :: text) offset =
    if c.utf8Size ≤ offset then after? text (offset - c.utf8Size) else none := by
  cases offset with
  | zero => exact absurd rfl hpos
  | succ offset => rfl

/-- **An offset between characters cuts a text in two.** -/
theorem after?_eq_some_iff : after? text offset = some rest ↔
    ∃ word, text = word ++ rest ∧ byteLength word = offset := by
  constructor
  · intro h
    induction text generalizing offset with
    | nil =>
      cases offset with
      | zero => exact ⟨[], Option.some.inj h, rfl⟩
      | succ offset => cases h
    | cons c text ih =>
      by_cases hpos : offset = 0
      · subst hpos
        exact ⟨[], Option.some.inj h, rfl⟩
      · rw [after?_cons c text hpos] at h
        split at h
        · rename_i hle
          obtain ⟨word, rfl, hlength⟩ := ih h
          exact ⟨c :: word, rfl, by rw [byteLength, hlength, Nat.add_sub_cancel' hle]⟩
        · cases h
  · rintro ⟨word, rfl, rfl⟩
    induction word with
    | nil => exact after?_zero rest
    | cons c word ih =>
      have hpos : byteLength (c :: word) ≠ 0 :=
        Nat.ne_of_gt (byteLength_pos (List.cons_ne_nil c word))
      rw [List.cons_append, after?_cons c _ hpos, byteLength, if_pos (Nat.le_add_right _ _),
        Nat.add_sub_cancel_left, ih]

/-- What stands between two byte offsets, if a character begins or the text ends at both. -/
def slice? (text : List Char) (start stop : Nat) : Option (List Char) :=
  if start ≤ stop then do
    let rest ← after? text start
    let later ← after? rest (stop - start)
    some (rest.take (rest.length - later.length))
  else none

/-- **A slice is a part of the text**, with the bytes before it and its own bytes counted. -/
theorem slice?_eq_some_iff : slice? text start stop = some word ↔ ∃ before after,
    text = before ++ (word ++ after) ∧ byteLength before = start ∧
      start + byteLength word = stop := by
  have htake (word later : List Char) :
      (word ++ later).take ((word ++ later).length - later.length) = word := by
    rw [List.length_append, Nat.add_sub_cancel, List.take_left]
  rw [slice?]
  constructor
  · intro h
    split at h
    · rename_i hle
      simp only [Option.bind_eq_bind, Option.bind_eq_some_iff] at h
      obtain ⟨rest, hrest, later, hlater, h⟩ := h
      obtain ⟨before, rfl, hstart⟩ := after?_eq_some_iff.mp hrest
      obtain ⟨between, rfl, hlength⟩ := after?_eq_some_iff.mp hlater
      rw [htake] at h
      obtain rfl := Option.some.inj h
      exact ⟨before, later, rfl, hstart, by omega⟩
    · cases h
  · rintro ⟨before, after, rfl, hstart, rfl⟩
    have hrest : after? (before ++ (word ++ after)) start = some (word ++ after) :=
      after?_eq_some_iff.mpr ⟨before, rfl, hstart⟩
    have hlater : after? (word ++ after) (start + byteLength word - start) = some after :=
      after?_eq_some_iff.mpr ⟨word, rfl, (Nat.add_sub_cancel_left start _).symm⟩
    rw [if_pos (Nat.le_add_right _ _), hrest]
    show (after? (word ++ after) _).bind _ = _
    rw [hlater]
    exact congrArg some (htake word after)

theorem stop_le_of_slice? (h : slice? text start stop = some word) : stop ≤ byteLength text := by
  obtain ⟨before, after, rfl, hstart, hstop⟩ := slice?_eq_some_iff.mp h
  rw [byteLength_append, byteLength_append]
  omega

end ChatPad.Text
