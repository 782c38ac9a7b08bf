import ChatPad.InputSet
import ChatPad.Text.Digit

/-!
# Input sequences

A sequence is a run of sets that are played one after the other.  `InputSequence.chat` writes it as
a message again; consecutive sets of the same outcome can be collapsed into one set and a repeat
digit, at most nine sets at a time.
-/

namespace ChatPad

/-- Sets that are played one after the other. -/
structure InputSequence where
  sets : List InputSet
deriving DecidableEq, Repr

namespace InputSequence

/-- Equality set by set. -/
def equal (a b : InputSequence) : Bool :=
  a.sets.length == b.sets.length && (a.sets.zip b.sets).all fun (x, y) => x.equal y

/-- Whether two sequences do the same, set by set. -/
def sameOutcome (a b : InputSequence) : Bool :=
  a.sets.length == b.sets.length && (a.sets.zip b.sets).all fun (x, y) => x.sameOutcome y

/-- The sequence with every set changed. -/
def mapSets (sequence : InputSequence) (f : InputSet → InputSet) : InputSequence :=
  ⟨sequence.sets.map f⟩

/-- The text of a sequence. -/
def text (sequence : InputSequence) : String :=
  "InputSequence(" ++ String.intercalate ", " (sequence.sets.map InputSet.text) ++ ")"

/-- The largest number of sets that one repeat digit stands for. -/
def longestRun : Nat := 9

/-- How many of the sets after `first` belong to its run. -/
def copiesAfter (first : InputSet) (later : List InputSet) : Nat :=
  ((later.take (longestRun - 1)).takeWhile fun set => set.sameOutcome first).length

/-- The message for a list of sets. -/
def chatOf (collapse : Bool) : List InputSet → String
  | [] => ""
  | set :: later =>
    let copies := if collapse then copiesAfter set later else 0
    set.chat ++ (if copies = 0 then "" else Text.decimal (copies + 1))
      ++ chatOf collapse (later.drop copies)
termination_by sets => sets.length
decreasing_by simp only [List.length_drop, List.length_cons]; omega

/-- The sequence as it is typed in chat, with or without repeat digits. -/
def chat (sequence : InputSequence) (collapse : Bool) : String :=
  chatOf collapse sequence.sets

end InputSequence

end ChatPad
