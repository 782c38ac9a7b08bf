import ChatPad.Definition
import ChatPad.Fragment.Lead
import ChatPad.SetupError

/-!
# Grammars

A message is a sequence of sets, a set is tokens joined by `+`, and a token is any alternative of
the vocabulary:

```text
sequence := set{1, sequence length}
set      := token ('+' token){0, set length - 1} hold? repeat?
token    := the fragment of any definition
hold     := '-'      if holding is enabled
repeat   := [1-9]    if a sequence may have more than one set
```

A grammar is compiled from the definitions once.  It keeps their fragments in the order of
registration, which decides between alternatives that match the same text, and an index by the
class of the first character, so that only alternatives that can begin with it are tried.
-/

namespace ChatPad

/-- The structural limits of messages. -/
structure Limits where
  /-- The largest number of inputs in a set. -/
  setLength : Nat := 2
  /-- The largest number of sets in a sequence, repetitions included. -/
  sequenceLength : Nat := 1
  /-- Whether a set may end in a hold marker. -/
  hold : Bool := true
deriving DecidableEq, Repr

namespace Limits

/-- The largest repeat digit that a message can contain under these limits. -/
def largestRepeat (limits : Limits) : Nat := min limits.sequenceLength 9

/-- The repeat digit in front of a text, if these limits allow it. -/
def repeatDigit? (limits : Limits) : List Char → Option Nat
  | [] => none
  | c :: _ =>
    let count := Text.digitValue c
    if 1 < limits.sequenceLength ∧ Text.isDigit c ∧ 1 ≤ count ∧ count ≤ limits.largestRepeat then
      some count
    else none

end Limits

/-- One alternative for a token: the fragment of the definition with this number. -/
structure Alternative where
  id : Nat
  fragment : Fragment
  label : String

/-- Alternatives by the class of their first character. -/
structure LeadIndex where
  /-- The alternatives that can be empty; they are tried at every place. -/
  always : List Alternative
  digit : List Alternative
  letter : List Alternative
  other : List Alternative

namespace LeadIndex

/-- Sorts alternatives into the classes in which they can begin. -/
def ofAlternatives (alternatives : List Alternative) : LeadIndex :=
  let starting (c : LeadClass) :=
    alternatives.filter fun a => !a.fragment.lead.nullable && a.fragment.lead.classes.has c
  { always := alternatives.filter fun a => a.fragment.lead.nullable
    digit := starting .digit
    letter := starting .letter
    other := starting .other }

/-- The alternatives that begin with a character of this class. -/
def bucket (index : LeadIndex) : LeadClass → List Alternative
  | .digit => index.digit
  | .letter => index.letter
  | .other => index.other

end LeadIndex

/-- A compiled grammar. -/
structure Grammar where
  alternatives : List Alternative
  index : LeadIndex
  limits : Limits

namespace Grammar

/-- The alternatives of a list of definitions, numbered in order. -/
def alternativesOf (definitions : List Definition) : List Alternative :=
  definitions.zipIdx.map fun (d, id) => ⟨id, d.fragment, d.description⟩

/-- Compiles definitions into a grammar. -/
def compile (definitions : List Definition) (limits : Limits) : Except SetupError Grammar :=
  if definitions.isEmpty then .error .noDefinitions
  else if limits.setLength = 0 then .error .zeroSetLength
  else if limits.sequenceLength = 0 then .error .zeroSequenceLength
  else
    let alternatives := alternativesOf definitions
    .ok ⟨alternatives, .ofAlternatives alternatives, limits⟩

/-- The alternatives worth trying in front of a text, in the order of registration. -/
def candidatesAt (g : Grammar) : List Char → List Alternative
  | [] => g.index.always
  | c :: _ =>
    let bucket := g.index.bucket (.ofChar c)
    if g.index.always.isEmpty then bucket
    else (bucket ++ g.index.always).mergeSort fun a b => a.id ≤ b.id

end Grammar

end ChatPad
