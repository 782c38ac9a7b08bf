import ChatPad.Definition
import ChatPad.Touch.Geometry

/-!
# Touchscreen definitions

A point is typed as `120,80` and a drag as `120,80>60,40`.  The shape only bounds the number of
digits; reading refuses what is not on the screen.  Any other definition can be retargeted to a
fixed point, which is how named regions of the screen work.
-/

namespace ChatPad

/-- The shape of a point. -/
def Geometry.pointFragment (g : Geometry) : Fragment :=
  .seq [.digitsFor g.width, .char ',', .digitsFor g.height]

/-- Reads two runs of digits with a comma between them. -/
def readPoint (text : List Char) : Option (Nat × Nat) :=
  let xs := text.takeWhile Text.isDigit
  match text.dropWhile Text.isDigit with
  | ',' :: ys =>
    if xs ≠ [] ∧ ys ≠ [] ∧ ys.all Text.isDigit then
      some (Text.digitsValue xs, Text.digitsValue ys)
    else none
  | _ => none

/-- Reads a point and keeps it if it lies on the screen, as the point where it is executed. -/
def Geometry.readOnScreen (g : Geometry) (text : List Char) : Option (Nat × Nat) := do
  let (x, y) ← readPoint text
  if g.contains x y then some (g.transform x y) else none

namespace Definition

/-- A width and a height, as they are described. -/
def describeScreen (kind : String) (g : Geometry) : String :=
  kind ++ " " ++ Text.decimal g.width ++ "x" ++ Text.decimal g.height

/-- A single touch. -/
def touch (name : String) (g : Geometry) : Definition where
  fragment := g.pointFragment
  read text := do
    let (x, y) ← g.readOnScreen text.toList
    some ⟨text, name, text, .touch x y⟩
  description := describeScreen "touch" g

/-- A drag from one point to another. -/
def drag (name : String) (g : Geometry) : Definition where
  fragment := .seq [g.pointFragment, .char '>', g.pointFragment]
  read text :=
    match text.toList.dropWhile (· != '>') with
    | '>' :: rest => do
      let (x, y) ← g.readOnScreen (text.toList.takeWhile (· != '>'))
      let (x2, y2) ← g.readOnScreen rest
      some ⟨text, name, text, .drag x y x2 y2⟩
    | _ => none
  description := describeScreen "drag" g

/-- A point as it is typed. -/
def pointText (point : Nat × Nat) : String :=
  Text.decimal point.1 ++ "," ++ Text.decimal point.2

/-- A definition that is recognized like its base and executed as a fixed touch.  The point goes
through the geometry once, here. -/
def asTouch (base : Definition) (screen : String) (g : Geometry) (x y : Nat) (keepsName : Bool) :
    Definition :=
  let target := g.transform x y
  { fragment := base.fragment
    read := fun text => do
      let inner ← base.read text
      some ⟨if keepsName then inner.displayed else pointText target, screen, text,
        .touch target.1 target.2⟩
    description := base.description ++ " as touch " ++ pointText target }

end Definition

end ChatPad
