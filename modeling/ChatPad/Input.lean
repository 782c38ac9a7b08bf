import ChatPad.Number.Shortest

/-!
# Inputs

An input is the smallest unit of control that a chat message can express: a button, an analog
press of some strength, a point or a drag on the touchscreen, the marker that keeps a set pressed,
or the marker that names a side of the controller.

Two inputs can agree in two ways.  They are *equal* if everything about them is, also the text they
came from.  They have the *same outcome* if they do the same in the game: `honk`, an alias of `y`,
and `y` itself have the same outcome.
-/

namespace ChatPad

/-- One half of a controller whose halves are alike. -/
inductive Side where
  | left
  | right
deriving DecidableEq, Repr

/-- The word for a side. -/
def Side.name : Side → String
  | left => "left"
  | right => "right"

/-- How far an analog input is pressed, as a fraction of a full press. -/
structure Strength where
  value : Single
  isFraction : value.isFraction = true
deriving DecidableEq, Repr

/-- What an input does, apart from the button it does it to. -/
inductive InputKind where
  | button
  | analog (strength : Strength)
  | touch (x y : Nat)
  | drag (x y x2 y2 : Nat)
  | hold
  | side (side : Option Side) (direct : Bool)
deriving DecidableEq, Repr

/-- One input: what viewers see, the button it presses, the text it was typed as, and what it
does. -/
structure Input where
  displayed : String
  button : String
  typed : String
  kind : InputKind
deriving DecidableEq, Repr

/-- Why an input cannot be made. -/
inductive InputError where
  | strengthOutOfRange (strength : Single)
deriving DecidableEq, Repr

/-- The text of an error. -/
def InputError.message : InputError → String
  | strengthOutOfRange strength =>
    "analog strength must be between 0 and 1, got " ++ strength.text

namespace Input

/-! ## Making inputs -/

/-- An analog input, unless its strength is not a fraction. -/
def analog? (displayed button typed : String) (strength : Single) : Except InputError Input :=
  if h : strength.isFraction = true then
    .ok ⟨displayed, button, typed, .analog ⟨strength, h⟩⟩
  else .error (.strengthOutOfRange strength)

/-- The marker that keeps its set pressed. -/
def hold : Input := ⟨"-", "hold", "-", .hold⟩

/-- The marker that names a side, or leaves it open. -/
def sideMarker (side : Option Side) (direct : Bool) : Input :=
  ⟨(side.map Side.name).getD "?", "side", "", .side side direct⟩

/-! ## Looking at inputs -/

def isHold (input : Input) : Bool :=
  match input.kind with
  | .hold => true
  | _ => false

def isSide (input : Input) : Bool :=
  match input.kind with
  | .side _ _ => true
  | _ => false

/-- Points and drags are touches. -/
def isTouch (input : Input) : Bool :=
  match input.kind with
  | .touch _ _ => true
  | .drag _ _ _ _ => true
  | _ => false

def strength? (input : Input) : Option Single :=
  match input.kind with
  | .analog strength => some strength.value
  | _ => none

def side? (input : Input) : Option (Option Side × Bool) :=
  match input.kind with
  | .side side direct => some (side, direct)
  | _ => none

/-- The text of an input: what is displayed, the button in parentheses, and the strength of an
analog press. -/
def text (input : Input) : String :=
  match input.kind with
  | .analog strength =>
    input.displayed ++ "(" ++ input.button ++ "=" ++ strength.value.text ++ ")"
  | _ => input.displayed ++ "(" ++ input.button ++ ")"

end Input

/-! ## Agreement -/

/-- Equality of kinds, where strengths are equal as numbers. -/
def InputKind.equal : InputKind → InputKind → Bool
  | .analog a, .analog b => a.value.equal b.value
  | a, b => a == b

/-- Kinds that do the same: strengths may differ by less than the precision of a full press, and
whether a side was spelled out does not count. -/
def InputKind.sameOutcome : InputKind → InputKind → Bool
  | .analog a, .analog b => a.value.isClose b.value
  | .side a _, .side b _ => a == b
  | a, b => a == b

/-- Equality in every part. -/
def Input.equal (a b : Input) : Bool :=
  a.displayed == b.displayed && a.button == b.button && a.typed == b.typed
    && a.kind.equal b.kind

/-- Whether two inputs do the same in the game. -/
def Input.sameOutcome (a b : Input) : Bool :=
  a.button == b.button && a.kind.sameOutcome b.kind

end ChatPad
