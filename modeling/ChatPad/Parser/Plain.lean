import ChatPad.Grammar.Search
import ChatPad.Parser

/-!
# The plain parser

The plain parser knows the vocabulary and the grammar.  It looks at each token on its own and
compares no inputs with each other.  `PlainParser.details` tells what it saw in a message on the way
to its answer.
-/

namespace ChatPad

/-- Definitions and the grammar compiled from them. -/
structure PlainParser where
  definitions : List Definition
  grammar : Grammar

/-- A token that was matched: its place, the description of its definition, and its text. -/
structure MatchedToken where
  definition : String
  slot : Slot
  start : Nat
  stop : Nat
  text : String
deriving DecidableEq, Repr

/-- What the plain parser makes of a message, and what it saw.  Tokens, sets, hold markers and
repeat digits are there whenever the message matches the grammar, also if it is turned down
later. -/
structure Details where
  text : String
  outcome : Except Rejection InputSequence
  tokens : List MatchedToken
  sets : List (Nat × Nat)
  holds : List Nat
  repeats : List (Nat × Nat)

namespace Details

/-- The sequence, unless the message was turned down. -/
def result (details : Details) : Option InputSequence := details.outcome.toOption

/-- Why the message was turned down. -/
def rejection (details : Details) : Option Rejection :=
  match details.outcome with
  | .ok _ => none
  | .error reason => some reason

end Details

/-- The description of the definition that an alternative belongs to. -/
def Grammar.label (g : Grammar) (id : Nat) : String :=
  ((g.alternatives.find? fun a => a.id == id).map Alternative.label).getD ""

namespace PlainParser

/-- A parser for a vocabulary.  The order of the definitions decides between those that match the
same text. -/
def ofDefinitions (definitions : List Definition) (limits : Limits) :
    Except SetupError PlainParser := do
  let grammar ← Grammar.compile definitions limits
  .ok ⟨definitions, grammar⟩

/-- The report that the grammar was compiled. -/
def compiled (p : PlainParser) : Event :=
  .compiled p.grammar.alternatives.length p.grammar.limits

/-- The parser in a few words. -/
def summary (p : PlainParser) : String :=
  "BareParser \x7b definitions: " ++ Text.decimal p.definitions.length
    ++ ", limits: GrammarLimits \x7b max_set_length: " ++ Text.decimal p.grammar.limits.setLength
    ++ ", max_sequence_length: " ++ Text.decimal p.grammar.limits.sequenceLength
    ++ ", hold_enabled: " ++ truthText p.grammar.limits.hold ++ " \x7d \x7d"

/-- Reads a message. -/
def read (p : PlainParser) (text : String) : Except Rejection InputSequence :=
  match p.grammar.captures? text.toList with
  | none => .error .noMatch
  | some captures => assemble p.definitions p.grammar.limits captures

/-- Reads a message and reports why it is turned down. -/
def parse (p : PlainParser) : Parser := fun text =>
  match p.read text with
  | .ok sequence => ⟨some sequence, []⟩
  | .error reason => ⟨none, [.rejected text reason]⟩

/-- Reads a message and tells what it saw. -/
def details (p : PlainParser) (text : String) : Details :=
  let matched := p.grammar.captures? text.toList
  let captures := matched.getD []
  { text := text
    outcome :=
      match matched with
      | none => .error .noMatch
      | some captures => assemble p.definitions p.grammar.limits captures
    tokens := captures.filterMap fun
      | .token id slot start stop word =>
        some ⟨p.grammar.label id, slot, start, stop, String.ofList word⟩
      | _ => none
    sets := captures.filterMap fun
      | .set start stop => some (start, stop)
      | _ => none
    holds := captures.filterMap fun
      | .hold offset => some offset
      | _ => none
    repeats := captures.filterMap fun
      | .times offset count => some (offset, count)
      | _ => none }

end PlainParser

end ChatPad
