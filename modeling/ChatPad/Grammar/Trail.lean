import ChatPad.Grammar.Capture
import Std.Data.TreeSet.Basic
import Std.Data.TreeSet.Lemmas

/-!
# The trail of a search

A backtracking search carries a trail: what it has captured on the path it is on, and the states
that it knows to lead nowhere.  An attempt that succeeds leaves its captures on the trail.  One that
fails may leave some as well: recording does not take back, and it is up to `restoring` and
`unlessKnown` to go back to a mark, the number of captures that there were before.  Attempts are put
together from smaller ones by `orElse`, `firstOf`, `recording`, `marking`, `restoring` and
`unlessKnown`.
-/

namespace ChatPad

/-- The stages of the search for a set. -/
inductive Stage where
  | setStart
  | tokenEnd
  | holdEnd
  | setEnd
deriving DecidableEq, Repr

/-- What decides whether the rest of a message can be matched: the stage, the place, the number of
tokens in the set so far and the number of sets before it. -/
structure SearchState where
  stage : Stage
  offset : Nat
  tokens : Nat
  sets : Nat
deriving DecidableEq, Repr

/-- The place of a stage in their order. -/
def Stage.rank : Stage → Nat
  | setStart => 0
  | tokenEnd => 1
  | holdEnd => 2
  | setEnd => 3

/-- An order of states, part by part. -/
def SearchState.compare : SearchState → SearchState → Ordering :=
  compareLex (compareOn (·.offset))
    (compareLex (compareOn (·.sets)) (compareLex (compareOn (·.tokens)) (compareOn (·.stage.rank))))

instance : Std.TransCmp SearchState.compare := inferInstanceAs (Std.TransCmp (compareLex _ _))

/-- The states that lead nowhere. -/
abbrev Memo := Std.TreeSet SearchState SearchState.compare

/-- Whether a state is recalled as leading nowhere, given the states that failed. -/
abbrev Recall := Memo → SearchState → Bool

/-- What a search has captured, newest first, and which states it knows to lead nowhere.  The
captures are counted, so that going back over a few of them takes no longer on a long trail. -/
structure Trail where
  captures : List Capture
  count : Nat
  failed : Memo
  count_eq : count = captures.length

namespace Trail

/-- A trail without captures. -/
def start : Trail := ⟨[], 0, ∅, rfl⟩

/-- Adds a capture. -/
def record (trail : Trail) (capture : Capture) : Trail :=
  { trail with
    captures := capture :: trail.captures
    count := trail.count + 1
    count_eq := by simp [trail.count_eq] }

/-- Takes back all captures but the oldest `mark`. -/
def rewind (trail : Trail) (mark : Nat) : Trail :=
  { trail with
    captures := trail.captures.drop (trail.count - mark)
    count := trail.count - (trail.count - mark)
    count_eq := by simp [trail.count_eq] }

/-- Takes captures back and remembers that a state leads nowhere. -/
def fail (trail : Trail) (state : SearchState) (mark : Nat) : Trail :=
  { trail.rewind mark with failed := trail.failed.insert state }

end Trail

/-- A step of a search: whether it succeeds, and the trail it leaves. -/
abbrev Attempt := Trail → Bool × Trail

namespace Attempt

/-- Always fails. -/
def never (trail : Trail) : Bool × Trail := (false, trail)

/-- Always succeeds. -/
def done (trail : Trail) : Bool × Trail := (true, trail)

/-- Tries one attempt, and the other if it fails. -/
def orElse (first second : Attempt) (trail : Trail) : Bool × Trail :=
  match first trail with
  | (true, trail) => (true, trail)
  | (false, trail) => second trail

/-- Tries attempts in order until one succeeds. -/
def firstOf : List Attempt → Attempt
  | [], trail => never trail
  | attempt :: later, trail => orElse attempt (firstOf later) trail

/-- Records a capture for the attempt. -/
def recording (capture : Capture) (attempt : Attempt) (trail : Trail) : Bool × Trail :=
  attempt (trail.record capture)

/-- Hands the number of captures on the trail to the attempt. -/
def marking (attempt : Nat → Attempt) (trail : Trail) : Bool × Trail := attempt trail.count trail

/-- Goes back to a mark if the attempt fails. -/
def restoring (mark : Nat) (attempt : Attempt) (trail : Trail) : Bool × Trail :=
  match attempt trail with
  | (true, after) => (true, after)
  | (false, after) => (false, after.rewind mark)

/-- Fails at once from a state that is recalled as leading nowhere; otherwise makes the attempt, which
is handed the mark, and if it fails, goes back to the mark and remembers the state. -/
def unlessKnown (recalls : Recall) (state : SearchState) (attempt : Nat → Attempt) (trail : Trail) :
    Bool × Trail :=
  if recalls trail.failed state then (false, trail)
  else
    match attempt trail.count trail with
    | (true, after) => (true, after)
    | (false, after) => (false, after.fail state trail.count)

end Attempt

end ChatPad
