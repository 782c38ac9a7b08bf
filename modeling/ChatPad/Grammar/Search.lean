import ChatPad.Grammar
import ChatPad.Grammar.Trail

/-!
# Matching a message

`Grammar.captures?` searches for the first way to read a whole message as a sequence.  Choices are
tried in this order: alternatives as they were registered, each with its ends in order of
preference; another token before the end of the set; a hold marker before none; no repeat digit
before one, so that the digits of a coordinate are not taken for a repetition; another set before
the end of the message.

Whether the rest of a message can be matched depends on the search state alone and not on the path
that led to it, so a state that failed once is not tried again.

The search goes round once per token, and each round consumes a character of the message, so the
length of the message bounds the rounds.  The parts of one round take what happens after a token as
an argument, `tokenEnd`.
-/

namespace ChatPad

/-- What happens after a token: given the start of its set, the place it ends at, the number of
tokens in the set and the number of sets before it. -/
abbrev TokenEnd := Nat → Cursor → Nat → Nat → Attempt

/-- How a message is searched. -/
structure Search where
  limits : Limits
  /-- The alternatives that are tried in front of a text, in order. -/
  candidates : List Char → List Alternative
  /-- The states that are not entered again. -/
  recalls : Recall

namespace Search

/-- Tries each token of one alternative that can stand here.  A token is not empty. -/
def tokenOf (alternative : Alternative) (tokenEnd : TokenEnd) (start : Nat) (here : Cursor)
    (slot : Slot) (tokens sets : Nat) (trail : Trail) : Bool × Trail :=
  Attempt.firstOf
    (((alternative.fragment.ends here.rest).filter (0 < ·)).map fun n trail =>
      let stop := here.advance n
      Attempt.marking (fun mark => Attempt.restoring mark (Attempt.recording
        (.token alternative.id slot here.offset stop.offset (here.rest.take n))
        (tokenEnd start stop (tokens + 1) sets))) trail)
    trail

/-- Tries each token that can stand here, one alternative after the other. -/
def token (s : Search) (tokenEnd : TokenEnd) (start : Nat) (here : Cursor) (slot : Slot)
    (tokens sets : Nat) (trail : Trail) : Bool × Trail :=
  Attempt.firstOf
    ((s.candidates here.rest).map fun alternative =>
      tokenOf alternative tokenEnd start here slot tokens sets)
    trail

/-- Begins a set. -/
def setStart (s : Search) (tokenEnd : TokenEnd) (here : Cursor) (sets : Nat) (trail : Trail) :
    Bool × Trail :=
  Attempt.unlessKnown s.recalls ⟨.setStart, here.offset, 0, sets⟩
    (fun _ => s.token tokenEnd here.offset here .leading 0 sets) trail

/-- Ends a set: another set is preferred to the end of the message. -/
def setEnd (s : Search) (tokenEnd : TokenEnd) (start : Nat) (here : Cursor) (sets : Nat)
    (trail : Trail) : Bool × Trail :=
  Attempt.unlessKnown s.recalls ⟨.setEnd, here.offset, 0, sets⟩
    (fun _ => Attempt.recording (.set start here.offset)
      (Attempt.orElse
        (if sets + 1 < s.limits.sequenceLength ∧ here.rest ≠ [] then
          s.setStart tokenEnd here (sets + 1)
        else Attempt.never)
        (if here.rest = [] then Attempt.done else Attempt.never)))
    trail

/-- After the hold marker or its absence: no repeat digit is preferred to one. -/
def holdEnd (s : Search) (tokenEnd : TokenEnd) (start : Nat) (here : Cursor) (sets : Nat)
    (trail : Trail) : Bool × Trail :=
  Attempt.unlessKnown s.recalls ⟨.holdEnd, here.offset, 0, sets⟩
    (fun _ => Attempt.orElse (s.setEnd tokenEnd start here sets)
      (match s.limits.repeatDigit? here.rest with
      | some count =>
        Attempt.recording (.times here.offset count) (s.setEnd tokenEnd start here.next sets)
      | none => Attempt.never))
    trail

/-- One round of the search, from the end of a token on: another token of the set is preferred to
a hold marker, and that to neither. -/
def tokenEndRound (s : Search) (tokenEnd : TokenEnd) (start : Nat) (here : Cursor)
    (tokens sets : Nat) (trail : Trail) : Bool × Trail :=
  Attempt.unlessKnown s.recalls ⟨.tokenEnd, here.offset, tokens, sets⟩
    (fun mark => Attempt.orElse
      (if tokens < s.limits.setLength ∧ here.rest.head? = some '+' then
        s.token tokenEnd start here.next .additional tokens sets
      else Attempt.never)
      (Attempt.orElse
        (if s.limits.hold ∧ here.rest.head? = some '-' then
          Attempt.restoring mark
            (Attempt.recording (.hold here.offset) (s.holdEnd tokenEnd start here.next sets))
        else Attempt.never)
        (s.holdEnd tokenEnd start here sets)))
    trail

/-- The search from the end of a token on, in at most `rounds` rounds. -/
def tokenEnd (s : Search) : Nat → TokenEnd
  | 0, _, _, _, _, trail => Attempt.never trail
  | rounds + 1, start, here, tokens, sets, trail =>
    s.tokenEndRound (s.tokenEnd rounds) start here tokens sets trail

/-- The captures of the first way to read a whole text, if there is one. -/
def captures? (s : Search) (text : List Char) : Option (List Capture) :=
  if text = [] then none
  else
    match s.setStart (s.tokenEnd text.length) ⟨0, text⟩ 0 .start with
    | (true, trail) => some trail.captures.reverse
    | (false, _) => none

end Search

namespace Grammar

/-- The search for the messages of a grammar: it tries the alternatives that the index offers, and
enters no state again that failed. -/
def search (g : Grammar) : Search where
  limits := g.limits
  candidates := g.candidatesAt
  recalls failed state := failed.contains state

/-- The captures of the first way to read a whole text in this grammar, if there is one. -/
def captures? (g : Grammar) (text : List Char) : Option (List Capture) := g.search.captures? text

end Grammar

end ChatPad
