/-!
# Byte offsets

Places in a message are reported as offsets in bytes of its UTF-8 form.  A text is searched as a
list of characters, so an offset is the sum of the widths of the characters before it.
-/

namespace ChatPad.Text

/-- The length of a text in bytes of UTF-8. -/
def byteLength : List Char → Nat
  | [] => 0
  | c :: rest => c.utf8Size + byteLength rest

/-- What stands from a byte offset on, if a character begins or the text ends there. -/
def after? : List Char → Nat → Option (List Char)
  | text, 0 => some text
  | [], _ + 1 => none
  | c :: rest, offset => if c.utf8Size ≤ offset then after? rest (offset - c.utf8Size) else none

theorem byteLength_append (a b : List Char) :
    byteLength (a ++ b) = byteLength a + byteLength b := by
  induction a with
  | nil => simp [byteLength]
  | cons c a ih => simp only [List.cons_append, byteLength, ih, Nat.add_assoc]

theorem byteLength_pos {a : List Char} (h : a ≠ []) : 0 < byteLength a := by
  cases a with
  | nil => exact absurd rfl h
  | cons c a => exact Nat.lt_of_lt_of_le c.utf8Size_pos (Nat.le_add_right _ _)

/-- A byte offset cuts a text in one way only. -/
theorem append_inj_of_byteLength_eq {a b x y : List Char} (h : a ++ x = b ++ y)
    (hlength : byteLength a = byteLength b) : a = b ∧ x = y := by
  induction a generalizing b with
  | nil =>
    cases b with
    | nil => exact ⟨rfl, h⟩
    | cons d b =>
      have hpos := byteLength_pos (List.cons_ne_nil d b)
      rw [← hlength] at hpos
      exact absurd hpos (Nat.lt_irrefl 0)
  | cons c a ih =>
    cases b with
    | nil =>
      have hpos := byteLength_pos (List.cons_ne_nil c a)
      rw [hlength] at hpos
      exact absurd hpos (Nat.lt_irrefl 0)
    | cons d b =>
      obtain ⟨rfl, hrest⟩ := List.cons.inj h
      obtain ⟨rfl, hxy⟩ := ih hrest (Nat.add_left_cancel hlength)
      exact ⟨rfl, hxy⟩

end ChatPad.Text
