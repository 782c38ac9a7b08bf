import ChatPad.Fragment
import ChatPad.Text.Alphabetic

/-!
# How a token can begin

Characters fall into three classes.  `Fragment.lead` says, without looking at a text, in which
classes the first character of a token can fall and whether the token can be empty; a grammar uses
it to try only the fragments that can match at a place.
-/

namespace ChatPad

/-- The class of a first character. -/
inductive LeadClass where
  | digit
  | letter
  | other
deriving DecidableEq, Repr

/-- The class of a character. -/
def LeadClass.ofChar (c : Char) : LeadClass :=
  if Text.isDigit c then .digit else if Text.isAlphabetic c then .letter else .other

/-- All classes, in order. -/
def LeadClass.all : List LeadClass := [.digit, .letter, .other]

/-- A set of classes. -/
structure LeadSet where
  digit : Bool
  letter : Bool
  other : Bool
deriving DecidableEq, Repr

namespace LeadSet

/-- No class at all. -/
def none : LeadSet := ⟨false, false, false⟩

/-- One class only. -/
def only (c : LeadClass) : LeadSet := ⟨c == .digit, c == .letter, c == .other⟩

/-- The classes of either set. -/
def union (a b : LeadSet) : LeadSet :=
  ⟨a.digit || b.digit, a.letter || b.letter, a.other || b.other⟩

/-- Whether a class belongs to a set. -/
def has (set : LeadSet) : LeadClass → Bool
  | .digit => set.digit
  | .letter => set.letter
  | .other => set.other

end LeadSet

/-- How a token can begin: the classes of its first character, and whether it can be empty. -/
structure Lead where
  classes : LeadSet
  nullable : Bool
deriving DecidableEq, Repr

namespace Fragment

mutual

/-- How a token of this shape can begin. -/
def lead : Fragment → Lead
  | .literal text =>
    match text.toList with
    | c :: _ => ⟨.only (.ofChar c), false⟩
    | [] => ⟨.none, true⟩
  | .digits min _ => ⟨.only .digit, min == 0⟩
  | .digitRange _ _ => ⟨.only .digit, false⟩
  | .char c => ⟨.only (.ofChar c), false⟩
  | .seq parts => rowLead parts
  | .optional inner => ⟨(lead inner).classes, true⟩

/-- How a row of fragments can begin: a later part counts only while all parts before it can be
empty. -/
def rowLead : List Fragment → Lead
  | [] => ⟨.none, true⟩
  | part :: later =>
    let first := lead part
    if first.nullable then
      let rest := rowLead later
      ⟨first.classes.union rest.classes, rest.nullable⟩
    else ⟨first.classes, false⟩

end

end Fragment

end ChatPad
