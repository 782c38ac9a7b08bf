import ChatPad.Fragment
import ChatPad.Input
import ChatPad.Text.Quoted

/-!
# Input definitions

A definition is one entry of the vocabulary: the shape of its tokens, how such a token is read as
an input, and a description for logs and reports.  Reading can still refuse a token of the right
shape, for instance a point beyond the edge of the screen.  This module has the definitions of
buttons and analog inputs; those of the touchscreen are in `ChatPad.Touch.Definition`.
-/

namespace ChatPad

/-- One entry of the vocabulary. -/
structure Definition where
  fragment : Fragment
  read : String → Option Input
  description : String

namespace Definition

/-- A name and the button it stands for, as they are described. -/
def describeMapping (kind name target : String) : String :=
  if name = target then kind ++ " " ++ Text.quoted name
  else kind ++ " " ++ Text.quoted name ++ " -> " ++ Text.quoted target

/-- A button that is recognized by its name.  An alias keeps the name for display, a remap is
displayed as the button it stands for. -/
def button (name target : String) (keepsName : Bool) : Definition where
  fragment := .literal name
  read text := some ⟨if keepsName then name else target, target, text, .button⟩
  description := describeMapping "button" name target

/-- The strength that the text after a name stands for: a full press, or tenths of it. -/
def suffixStrength : List Char → Option Single
  | [] => some .one
  | ['.', digit] =>
    if '1' ≤ digit ∧ digit ≤ '9' then some (Single.nearest false (Text.digitValue digit) 10)
    else none
  | _ => none

/-- An input that can be pressed in part: `r` is a full press, `r.3` three tenths of it. -/
def analog (name target : String) (keepsName : Bool) : Definition where
  fragment := .seq [.literal name, .optional (.seq [.char '.', .digitRange 1 9])]
  read text := do
    guard (Fragment.beginsWith name.toList text.toList)
    let strength ← suffixStrength (text.toList.drop name.toList.length)
    (Input.analog? (if keepsName then name else target) target text strength).toOption
  description := describeMapping "analog" name target

end Definition

end ChatPad
