import ChatPad.Text.Digit
import ChatPad.Text.Lowercase

/-!
# Fragments

A fragment is the shape of one kind of token: a name, a run of digits, a character, or fragments in
a row, some of them optional.  `Fragment.ends` lists every place at which a token of that shape at
the front of a text can end, in the order in which a backtracking search tries them: the longest run
of digits first, an optional part before its absence, and the choices of an earlier part before
those of a later one.  Places are counted in characters from the front.
-/

namespace ChatPad

/-- The shape of a token. -/
inductive Fragment where
  /-- A text, whatever its case. -/
  | literal (text : String)
  /-- Between `min` and `max` decimal digits. -/
  | digits (min max : Nat)
  /-- One decimal digit between `low` and `high`. -/
  | digitRange (low high : Nat)
  /-- One character, exactly. -/
  | char (c : Char)
  /-- Fragments one after the other. -/
  | seq (parts : List Fragment)
  /-- A fragment or nothing. -/
  | optional (inner : Fragment)
deriving Repr

namespace Fragment

/-- Enough digits to spell any number below a bound. -/
def digitsFor (bound : Nat) : Fragment := .digits 1 (Text.decimalDigits bound).length

/-- Whether a text begins with a name, whatever its case. -/
def beginsWith : List Char → List Char → Bool
  | [], _ => true
  | _ :: _, [] => false
  | expected :: later, actual :: rest => Text.sameLetter actual expected && beginsWith later rest

/-- The ends of a run of at least `min` and at most `max` digits, the farthest first. -/
def digitEnds (min max : Nat) (text : List Char) : List Nat :=
  let available := ((text.take max).takeWhile Text.isDigit).length
  (List.range' min (available + 1 - min)).reverse

/-- The end of one character that passes a test. -/
def charEnds (test : Char → Bool) : List Char → List Nat
  | [] => []
  | c :: _ => if test c then [1] else []

mutual

/-- Every end of a token of this shape, in order of preference, each once. -/
def ends : Fragment → List Char → List Nat
  | .literal name, text => if beginsWith name.toList text then [name.toList.length] else []
  | .digits min max, text => digitEnds min max text
  | .digitRange low high, text =>
    charEnds (fun c => Text.isDigit c && low ≤ Text.digitValue c && Text.digitValue c ≤ high) text
  | .char c, text => charEnds (· == c) text
  | .seq parts, text => rowEnds parts [0] text
  | .optional inner, text => (ends inner text ++ [0]).eraseDups

/-- Every end of a row of fragments that begins at one of the places `reached`.  The row is followed
from all of these places at once: a place that can be reached in several ways goes on in the same
ways each time, so only the first of them counts. -/
def rowEnds : List Fragment → List Nat → List Char → List Nat
  | [], reached, _ => reached
  | part :: later, reached, text =>
    let next := reached.flatMap fun n => (ends part (text.drop n)).map (n + ·)
    rowEnds later next.eraseDups text

end

end Fragment

end ChatPad
