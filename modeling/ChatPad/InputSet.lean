import ChatPad.Input

/-!
# Input sets

A set is everything that is pressed on one frame.  It is shown in the order in which it was typed,
but that order has no influence on its outcome: two sets have the same outcome if each input of the
one can be paired with an input of the other that does the same.
-/

namespace ChatPad

/-- The inputs of one frame, in the order they were typed. -/
structure InputSet where
  inputs : List Input
deriving DecidableEq, Repr

namespace InputSet

/-- Whether the set stays pressed on the next frame. -/
def isHeld (set : InputSet) : Bool := set.inputs.any Input.isHold

/-- The set with one more input at its end. -/
def add (set : InputSet) (input : Input) : InputSet := ⟨set.inputs ++ [input]⟩

/-- Equality input by input, in order. -/
def equal (a b : InputSet) : Bool :=
  a.inputs.length == b.inputs.length && (a.inputs.zip b.inputs).all fun (x, y) => x.equal y

/-- Whether every input of the first list can claim one of the second that no earlier input has
claimed; each claims the first that does the same. -/
def claimAll : List Input → List Input → Bool
  | [], _ => true
  | input :: later, unclaimed =>
    unclaimed.any input.sameOutcome && claimAll later (unclaimed.eraseP input.sameOutcome)

/-- Whether two sets do the same, in whatever order. -/
def sameOutcome (a b : InputSet) : Bool :=
  a.inputs.length == b.inputs.length && claimAll a.inputs b.inputs

/-- The text of a set. -/
def text (set : InputSet) : String :=
  String.intercalate "+" (set.inputs.map Input.text)

/-- The set as it is typed in chat: the inputs that have a text of their own, and a `-` at the end
if it is held. -/
def chat (set : InputSet) : String :=
  String.intercalate "+"
      ((set.inputs.filter fun input => !input.isHold && !input.isSide).map Input.typed)
    ++ (if set.isHeld then "-" else "")

end InputSet

end ChatPad
