import ChatPad.Definition
import ChatPad.Grammar
import ChatPad.Grammar.Capture
import ChatPad.InputSequence

/-!
# From captures to a sequence

A match only shows that a message has the right shape.  Assembly hands every token to the definition
it belongs to, puts the inputs of each set back in the order in which they were typed, adds hold
markers, repeats sets, and enforces the limit on the number of sets, which a grammar cannot do
because it does not count repetitions.

Tokens wait in one queue per definition, ordered by where they stand.  The sets are closed one after
the other, each at the offset where it ends, and closing a set takes from every queue what stands
before that offset.
-/

namespace ChatPad

/-- Why a message is no sequence of inputs. -/
inductive Rejection where
  | noMatch
  /-- A token has the right shape, but its definition refuses it. -/
  | tokenRejected (definition text : String) (offset : Nat)
  | sequenceTooLong (produced limit : Nat)
deriving DecidableEq, Repr

/-- The text of a rejection. -/
def Rejection.message : Rejection → String
  | noMatch => "text does not match the input grammar"
  | tokenRejected definition text offset =>
    definition ++ " rejected " ++ Text.quoted text ++ " at offset " ++ Text.decimal offset
  | sequenceTooLong produced limit =>
    "sequence expands to at least " ++ Text.decimal produced ++ " sets (limit "
      ++ Text.decimal limit ++ ")"

namespace Assembly

/-- A token that waits to be read: where it begins, and its text. -/
abbrev Token := Nat × List Char

/-- The tokens of one definition that belong to no closed set yet. -/
structure Queue where
  definition : Definition
  tokens : List Token

/-- What belongs to no closed set yet. -/
structure Pending where
  queues : List Queue
  holds : List Nat
  repeats : List (Nat × Nat)

/-- The tokens of the alternative with this number, as they were recorded. -/
def tokensOf (captures : List Capture) (id : Nat) : List Token :=
  captures.filterMap fun
    | .token alternative _ start _ word => if alternative = id then some (start, word) else none
    | _ => none

/-- The offsets of the hold markers, as they were recorded. -/
def holdsOf (captures : List Capture) : List Nat :=
  captures.filterMap fun
    | .hold offset => some offset
    | _ => none

/-- The repeat digits and their offsets, as they were recorded. -/
def repeatsOf (captures : List Capture) : List (Nat × Nat) :=
  captures.filterMap fun
    | .times offset count => some (offset, count)
    | _ => none

/-- The offsets where the sets end, as they were recorded. -/
def setEndsOf (captures : List Capture) : List Nat :=
  captures.filterMap fun
    | .set _ stop => some stop
    | _ => none

/-- The order of pairs by their first parts, and by their second parts where the first agree. -/
def pairLe (a b : Nat × Nat) : Bool := a.1 < b.1 || (a.1 == b.1 && a.2 ≤ b.2)

/-- Where a token begins and ends. -/
def Token.span (token : Token) : Nat × Nat := (token.1, token.1 + Text.byteLength token.2)

/-- Sorts captures into queues, each in the order of the message. -/
def Pending.ofCaptures (definitions : List Definition) (captures : List Capture) : Pending where
  queues := definitions.zipIdx.map fun (d, id) =>
    ⟨d, (tokensOf captures id).mergeSort fun a b => pairLe a.span b.span⟩
  holds := (holdsOf captures).mergeSort
  repeats := (repeatsOf captures).mergeSort pairLe

/-- The offsets where the sets end, in ascending order. -/
def setEnds (captures : List Capture) : List Nat := (setEndsOf captures).mergeSort

/-- Reads tokens of one definition, up to the first that it refuses. -/
def readTokens (d : Definition) : List Token → Except Rejection (List (Nat × Input))
  | [] => .ok []
  | (start, word) :: later =>
    let text := String.ofList word
    match d.read text with
    | none => .error (.tokenRejected d.description text start)
    | some input => (readTokens d later).map ((start, input) :: ·)

/-- Takes from every queue, in the order of the definitions, the tokens before an offset. -/
def drain (boundary : Nat) : List Queue → Except Rejection (List (Nat × Input) × List Queue)
  | [] => .ok ([], [])
  | queue :: later => do
    let taken ← readTokens queue.definition (queue.tokens.takeWhile fun t => t.1 < boundary)
    let (more, rest) ← drain boundary later
    .ok (taken ++ more, ⟨queue.definition, queue.tokens.dropWhile fun t => t.1 < boundary⟩ :: rest)

/-- Whether the first offset in line stands before a boundary. -/
def isNext (boundary : Nat) (offset? : Option Nat) : Bool :=
  offset?.any fun offset => offset < boundary

/-- Closes the sets that end at these offsets, one after the other, after those that are already
`done`. -/
def closeSets (limit : Nat) : List Nat → Pending → List InputSet → Except Rejection InputSequence
  | [], _, done => .ok ⟨done⟩
  | boundary :: later, pending, done => do
    let (read, queues) ← drain boundary pending.queues
    let typed := (read.mergeSort fun a b => a.1 ≤ b.1).map Prod.snd
    let held := isNext boundary pending.holds.head?
    let repeated := isNext boundary (pending.repeats.head?.map Prod.fst)
    let inputs := if held then typed ++ [Input.hold] else typed
    let count := if repeated then (pending.repeats.head?.map Prod.snd).getD 1 else 1
    let done := done ++ List.replicate count ⟨inputs⟩
    if limit < done.length then .error (.sequenceTooLong done.length limit)
    else
      closeSets limit later
        { queues := queues
          holds := if held then pending.holds.tail else pending.holds
          repeats := if repeated then pending.repeats.tail else pending.repeats }
        done

end Assembly

/-- Assembles the captures of a match into a sequence. -/
def assemble (definitions : List Definition) (limits : Limits) (captures : List Capture) :
    Except Rejection InputSequence :=
  Assembly.closeSets limits.sequenceLength (Assembly.setEnds captures)
    (Assembly.Pending.ofCaptures definitions captures) []

end ChatPad
