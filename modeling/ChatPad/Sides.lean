import ChatPad.Input
import ChatPad.SetupError
import ChatPad.Text.WordCase

/-!
# Sides

Some controllers have two halves that are alike, and a letter in front of a message picks one:
`lup` is up on the left, `r:a` is `a` on the right.  Names can look like prefixed names, so a
message is first taken as a whole, and letters are taken off its front one at a time only as long as
what remains is not recognized.  With the names `up` and `rup`,

```text
up    is up on no side in particular
rup   is rup on no side in particular
rrup  is rup on the right
r:up  is up on the right
```

What counts as recognized is up to the caller.
-/

namespace ChatPad

/-- The letters that pick a side. -/
structure SidePrefixes where
  left : Char := 'l'
  right : Char := 'r'
  /-- Whether letters are taken off at all. -/
  allowDirected : Bool := true
deriving DecidableEq, Repr

namespace SidePrefixes

/-- The character that a text consists of. -/
def singleChar (text : String) : Except SetupError Char :=
  match text.toList with
  | [c] => .ok c
  | _ => .error (.malformedSidePrefix text)

/-- Prefixes from texts, which have to be single characters. -/
def ofTexts (left right : String) (allowDirected : Bool) : Except SetupError SidePrefixes := do
  let left ← singleChar left
  let right ← singleChar right
  .ok ⟨left, right, allowDirected⟩

/-- The side that a letter picks, whatever its case. -/
def sideOf (p : SidePrefixes) (c : Char) : Option Side :=
  if Text.sameLetter c p.left then some .left
  else if Text.sameLetter c p.right then some .right
  else none

/-- Whether a character may stand between a side letter and what it applies to. -/
def isSeparator (c : Char) : Bool := c == ':' || c == '.' || c == '@' || c == '#'

/-- The text without a separator at its front. -/
def dropSeparator : List Char → List Char
  | [] => []
  | c :: rest => if isSeparator c then rest else c :: rest

theorem length_dropSeparator_le (text : List Char) :
    (dropSeparator text).length ≤ text.length := by
  cases text with
  | nil => exact Nat.le_refl _
  | cons c rest => simp only [dropSeparator]; split <;> simp

variable {m : Type → Type} [Monad m] {α : Type}

/-- Takes side letters off the front of a text until the rest is recognized; the last letter taken
decides the side. -/
def strip (p : SidePrefixes) (recognize : String → m (Option α)) :
    List Char → m (Option (α × Option Side))
  | [] => pure none
  | c :: rest =>
    match p.sideOf c with
    | none => pure none
    | some side => do
      match ← recognize (String.ofList (dropSeparator rest)) with
      | some value => pure (some (value, some side))
      | none => strip p recognize (dropSeparator rest)
termination_by text => text.length
decreasing_by
  have := length_dropSeparator_le rest
  simp only [List.length_cons]; omega

/-- Recognizes a text as a whole, or else what remains after the fewest side letters. -/
def disambiguate (p : SidePrefixes) (recognize : String → m (Option α)) (text : String) :
    m (Option (α × Option Side)) := do
  match ← recognize text with
  | some value => pure (some (value, none))
  | none => if p.allowDirected then p.strip recognize text.toList else pure none

end SidePrefixes

/-! ## Names with sides -/

/-- A known name and the side it was typed with. -/
structure SidedName where
  /-- The name as it is known, whatever case it was typed in. -/
  button : String
  side : Option Side
  /-- Whether the side was spelled out. -/
  direct : Bool
deriving DecidableEq, Repr

/-- The marker for the side of a resolution. -/
def SidedName.marker (r : SidedName) : Input := .sideMarker r.side r.direct

/-- Names that are recognized whatever their case; of names that differ in case only, the last
counts. -/
structure KnownNames where
  names : List String
  prefixes : SidePrefixes

namespace KnownNames

/-- The known name that a text spells. -/
def find? (known : KnownNames) (text : String) : Option String :=
  known.names.reverse.find? fun name => Text.lowercaseText name == Text.lowercaseText text

/-- Recognizes a word as a known name, with or without side letters. -/
def resolve (known : KnownNames) (word : String) : Option SidedName :=
  let found : Id (Option (String × Option Side)) :=
    known.prefixes.disambiguate (fun text => pure (known.find? text)) word
  found.run.map fun (button, side) => ⟨button, side, side.isSome⟩

end KnownNames

end ChatPad
