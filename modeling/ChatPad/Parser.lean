import ChatPad.Assembly
import ChatPad.Rules
import ChatPad.Sides

/-!
# Parsers

A parser turns a message into a sequence or into nothing, and says in its log why it turned messages
down.  Parsers come in layers: the plain parser in `ChatPad.Parser.Plain` knows the grammar alone, a
layer of rules turns down what makes no sense, and a layer of sides takes side letters off.
-/

namespace ChatPad

/-- What a parser reports. -/
inductive Event where
  /-- A grammar was compiled. -/
  | compiled (alternatives : Nat) (limits : Limits)
  /-- A message is no sequence of inputs. -/
  | rejected (text : String) (reason : Rejection)
  /-- A message is a sequence that breaks a rule. -/
  | violated (text : String) (violation : Violation)
deriving DecidableEq, Repr

/-- The word for a truth value. -/
def truthText (b : Bool) : String := if b then "true" else "false"

/-- The line of a report in the log. -/
def Event.line : Event → String
  | compiled alternatives limits =>
    "INFO compiled input grammar: " ++ Text.decimal alternatives ++ " alternatives, max_set_length="
      ++ Text.decimal limits.setLength ++ ", max_sequence_length="
      ++ Text.decimal limits.sequenceLength ++ ", hold=" ++ truthText limits.hold
  | rejected text reason => "DEBUG rejected " ++ Text.quoted text ++ ": " ++ reason.message
  | violated text violation => "DEBUG rejected " ++ Text.quoted text ++ ": " ++ violation.message

/-- A value, and what was noted on the way to it. -/
structure Logged (ε α : Type) where
  value : α
  log : List ε

instance {ε : Type} : Monad (Logged ε) where
  pure value := ⟨value, []⟩
  bind a f := ⟨(f a.value).value, a.log ++ (f a.value).log⟩

/-- The answer to a message. -/
abbrev Reply := Logged Event (Option InputSequence)

/-- Turns messages into sequences. -/
abbrev Parser := String → Reply

/-- A parser whose sequences also have to keep the rules. -/
def Rules.checked (rules : Rules) (base : Parser) : Parser := fun text => do
  match ← base text with
  | none => pure none
  | some sequence =>
    match rules.violation? sequence with
    | none => pure (some sequence)
    | some violation => ⟨none, [.violated text violation]⟩

/-- A parser that also accepts messages with side letters in front, and marks every set with the
side. -/
def SidePrefixes.marked (p : SidePrefixes) (base : Parser) : Parser := fun text => do
  match ← p.disambiguate base text with
  | none => pure none
  | some (sequence, side) =>
    pure (some (sequence.mapSets fun set => set.add (.sideMarker side side.isSome)))

end ChatPad
