import ChatPad.InputSequence
import ChatPad.Text.Quoted

/-!
# Rules across inputs

Some sequences are well formed but make no sense to execute.  The rules look at each set on its own:
a lone button shares its set with nothing, no button is pressed twice, nothing is done twice, there
is one touch at most unless several are allowed, and conflicting buttons are not pressed together.
The first rule that the first offending set breaks, in this order, is the violation.
-/

namespace ChatPad

/-- A rule that a set breaks. -/
inductive Violation where
  /-- Two inputs, not touches, press the same button. -/
  | duplicateButton (button : String)
  /-- Two inputs do the same. -/
  | duplicateOutcome (input : String)
  /-- There is more than one touch. -/
  | multitouch
  /-- Two buttons must not be pressed together. -/
  | conflict (first second : String)
  /-- A button must be alone, and is not. -/
  | notAlone (button : String)
deriving DecidableEq, Repr

/-- The text of a violation. -/
def Violation.message : Violation → String
  | duplicateButton button => "button " ++ Text.quoted button ++ " pressed twice in one set"
  | duplicateOutcome input => input ++ " appears twice in one set"
  | multitouch => "multiple touches in one set without multitouch"
  | conflict first second => Text.quoted first ++ " conflicts with " ++ Text.quoted second
  | notAlone button => Text.quoted button ++ " must be the only input in its set"

/-- Which buttons may be pressed together. -/
structure Rules where
  /-- Pairs of buttons that may not share a set, in either order. -/
  conflicts : List (String × String) := []
  /-- Whether a set may have several touches. -/
  multitouch : Bool := false
  /-- Buttons that may not share a set with anything. -/
  lone : List String := ["wait"]
deriving DecidableEq, Repr

namespace Rules

/-- Whether two buttons conflict. -/
def isConflict (rules : Rules) (a b : String) : Bool :=
  rules.conflicts.contains (a, b) || rules.conflicts.contains (b, a)

/-- The first input that is related to one of the inputs before it, which are those in `earlier` and
those that precede it in the list. -/
def firstRelated? (related : Input → Input → Bool) : List Input → List Input → Option Input
  | _, [] => none
  | earlier, input :: later =>
    if earlier.any fun e => related e input then some input
    else firstRelated? related (earlier ++ [input]) later

/-- The first pair of inputs, in order, that passes a test. -/
def firstPair? (test : Input → Input → Bool) : List Input → Option (Input × Input)
  | [] => none
  | a :: later =>
    match later.find? (test a) with
    | some b => some (a, b)
    | none => firstPair? test later

/-- A lone button that is not alone. -/
def companyViolation? (rules : Rules) (inputs : List Input) : Option Violation :=
  if 1 < inputs.length then
    (inputs.find? fun i => rules.lone.contains i.button).map fun i => .notAlone i.button
  else none

/-- A button that is pressed twice. -/
def buttonViolation? (inputs : List Input) : Option Violation :=
  (firstRelated? (fun a b => a.button == b.button) [] (inputs.filter fun i => !i.isTouch)).map
    fun i => .duplicateButton i.button

/-- An input that does what an earlier one does. -/
def outcomeViolation? (inputs : List Input) : Option Violation :=
  (firstRelated? Input.sameOutcome [] inputs).map fun i => .duplicateOutcome i.text

/-- Several touches. -/
def touchViolation? (rules : Rules) (inputs : List Input) : Option Violation :=
  if !rules.multitouch && 1 < inputs.countP Input.isTouch then some .multitouch else none

/-- Two different buttons that conflict. -/
def conflictViolation? (rules : Rules) (inputs : List Input) : Option Violation :=
  (firstPair? (fun a b => a.button != b.button && rules.isConflict a.button b.button) inputs).map
    fun (a, b) => .conflict a.button b.button

/-- The first rule that a set breaks. -/
def setViolation? (rules : Rules) (set : InputSet) : Option Violation :=
  (rules.companyViolation? set.inputs).or <|
  (buttonViolation? set.inputs).or <|
  (outcomeViolation? set.inputs).or <|
  (rules.touchViolation? set.inputs).or <|
  rules.conflictViolation? set.inputs

/-- The violation of the first set that breaks a rule. -/
def violation? (rules : Rules) (sequence : InputSequence) : Option Violation :=
  sequence.sets.findSome? rules.setViolation?

end Rules

end ChatPad
