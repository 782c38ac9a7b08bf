/-!
# Readers

A reader takes something off the front of a text, or fails.  What comes next is always decided by
looking at the front of the text, so nothing is ever tried and taken back: a reader that fails means
that the document is not well formed.
-/

namespace ChatPad.Toml

/-- Takes a value off the front of a text. -/
abbrev Reader := StateT (List Char) Option

namespace Reader

variable {α : Type}

/-- Whether the text goes on with these characters. -/
def ahead (word : List Char) : Reader Bool := fun text => some (word.isPrefixOf text, text)

/-- Whether the next character passes a test. -/
def sees (test : Char → Bool) : Reader Bool := fun text =>
  match text with
  | [] => some (false, text)
  | c :: _ => some (test c, text)

/-- Whether there is nothing left. -/
def atEnd : Reader Bool := fun text => some (text.isEmpty, text)

/-- Takes a character that passes a test. -/
def one (test : Char → Bool) : Reader Char
  | [] => none
  | c :: rest => if test c then some (c, rest) else none

/-- Takes these characters. -/
def word : List Char → Reader Unit
  | [] => pure ()
  | c :: rest => do
    discard <| one (· == c)
    word rest

/-- Takes these characters if they are next, and says whether they were. -/
def wordIf (w : List Char) : Reader Bool := do
  if ← ahead w then
    word w
    pure true
  else pure false

/-- Takes as many characters as pass a test. -/
def span (test : Char → Bool) : Reader (List Char) := fun text =>
  some (text.takeWhile test, text.dropWhile test)

/-- Also gives the characters that a reader took. -/
def spelled (reader : Reader α) : Reader (α × String) := fun text =>
  match reader text with
  | none => none
  | some (value, rest) =>
    some ((value, String.ofList (text.take (text.length - rest.length))), rest)

/-- Takes a number of characters that all pass a test. -/
def exactly (test : Char → Bool) : Nat → Reader (List Char)
  | 0 => pure []
  | n + 1 => do
    let c ← one test
    let rest ← exactly test n
    pure (c :: rest)

/-- Takes one item after the other as long as the text goes on with one, but fails if there are more
than a number of them. -/
def itemsWithin (goesOn : Reader Bool) (item : Reader α) : Nat → Reader (List α)
  | 0 => do if ← goesOn then failure else pure []
  | bound + 1 => do
    if ← goesOn then
      let first ← item
      let others ← itemsWithin goesOn item bound
      pure (first :: others)
    else pure []

/-- Takes one item after the other as long as the text goes on with one.  Every item takes
something, so there are no more of them than characters. -/
def items (goesOn : Reader Bool) (item : Reader α) : Reader (List α) := fun text =>
  itemsWithin goesOn item text.length text

end Reader

end ChatPad.Toml
