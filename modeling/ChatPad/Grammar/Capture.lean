import ChatPad.Text.Offset

/-!
# Captures

A match leaves a trace: each token with the alternative it belongs to, each hold marker, each repeat
digit and each finished set, with their places in the message.  The message `a+b2start` leaves

```text
token a, leading, 0 to 1
token b, additional, 2 to 3
times 2 at 3
set 0 to 4
token start, leading, 4 to 9
set 4 to 9
```
-/

namespace ChatPad

/-- Whether a token opens its set or follows a `+`. -/
inductive Slot where
  | leading
  | additional
deriving DecidableEq, Repr

/-- One thing that a match has recognized, with its place in bytes. -/
inductive Capture where
  /-- A token of the alternative with this number, and its text. -/
  | token (alternative : Nat) (slot : Slot) (start stop : Nat) (word : List Char)
  | hold (offset : Nat)
  | times (offset count : Nat)
  | set (start stop : Nat)
deriving DecidableEq, Repr

/-- A place in a message: its offset, and what stands from there on. -/
structure Cursor where
  offset : Nat
  rest : List Char
deriving DecidableEq, Repr

namespace Cursor

/-- The place after a number of characters of a text that stands at an offset. -/
def advanceFrom (offset : Nat) : List Char → Nat → Cursor
  | rest, 0 => ⟨offset, rest⟩
  | [], _ + 1 => ⟨offset, []⟩
  | c :: rest, count + 1 => advanceFrom (offset + c.utf8Size) rest count

/-- The place after a number of characters. -/
def advance (here : Cursor) (count : Nat) : Cursor :=
  advanceFrom here.offset here.rest count

theorem advanceFrom_eq (offset : Nat) (rest : List Char) (count : Nat) :
    advanceFrom offset rest count =
      ⟨offset + Text.byteLength (rest.take count), rest.drop count⟩ := by
  induction rest generalizing offset count with
  | nil => cases count <;> simp [advanceFrom, Text.byteLength]
  | cons c rest ih =>
    cases count with
    | zero => simp [advanceFrom, Text.byteLength]
    | succ count => simp [advanceFrom, ih, Text.byteLength, Nat.add_assoc]

/-- Advancing adds the width of the characters it passes. -/
theorem advance_eq (here : Cursor) (count : Nat) :
    here.advance count =
      ⟨here.offset + Text.byteLength (here.rest.take count), here.rest.drop count⟩ :=
  advanceFrom_eq here.offset here.rest count

/-- The place after the next character. -/
def next (here : Cursor) : Cursor := here.advance 1

end Cursor

end ChatPad
