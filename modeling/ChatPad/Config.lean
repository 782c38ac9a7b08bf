import ChatPad.Layout

/-!
# Configurations

A configuration describes a whole parser as plain data, so that another game needs another file and
nothing else.  It becomes a layout in a fixed order: buttons with their plain names come first, then
aliases and replacements, analog inputs, the D-pad, sticks, the touchscreen, and last the names of
points on it, so a name that means several things means the first of these.

Entries for conflicts and side letters may be malformed; whether the layout makes a parser is
decided later, when it is built.
-/

namespace ChatPad

namespace Config

/-- A name for another button. -/
structure Mapping where
  name : String
  target : String
deriving DecidableEq, Repr

/-- A stick: what its names begin with, and whether it can be spun. -/
structure Stick where
  namePrefix : String := ""
  allowSpin : Bool := false
deriving DecidableEq, Repr

/-- A touchscreen. -/
structure Touchscreen where
  geometry : Geometry
  allowDrag : Bool := false
  multitouch : Bool := false
deriving DecidableEq, Repr

/-- The letters of the sides, as they are written. -/
structure Sides where
  allowDirected : Bool := true
  left : String := "l"
  right : String := "r"
deriving DecidableEq, Repr

end Config

/-- The description of a parser. -/
structure Config where
  setLength : Nat := 2
  sequenceLength : Nat := 1
  hold : Bool := true
  buttons : List String := []
  aliasedButtons : List Config.Mapping := []
  remappedButtons : List Config.Mapping := []
  analogs : List String := []
  /-- What the names of a D-pad begin with, if there is one. -/
  dpad : Option String := none
  sticks : List Config.Stick := []
  touchscreen : Option Config.Touchscreen := none
  taps : List ScreenPoint := []
  game : Option Game := none
  conflicts : List (List String) := []
  lone : List String := ["wait"]
  sides : Option Config.Sides := none
deriving DecidableEq, Repr

namespace Config

/-- A mapping as a pair of its names. -/
def Mapping.toPair (m : Mapping) : String × String := (m.name, m.target)

/-- The two buttons that an entry for a conflict names. -/
def conflictPair : List String → Except SetupError (String × String)
  | [a, b] => .ok (a, b)
  | entry => .error (.malformedConflict entry)

/-- The side letters, which have to be single characters. -/
def Sides.toPrefixes (s : Sides) : Except SetupError SidePrefixes :=
  SidePrefixes.ofTexts s.left s.right s.allowDirected

/-- The steps that lead to the layout. -/
def steps (c : Config) (conflicts : List (String × String)) (sides : Option SidePrefixes) :
    List Layout.Step :=
  [.lengths c.setLength c.sequenceLength, .hold c.hold, .buttons c.buttons,
    .aliasedButtons (c.aliasedButtons.map Mapping.toPair),
    .remappedButtons (c.remappedButtons.map Mapping.toPair), .analogs c.analogs]
  ++ c.dpad.toList.map .dpad
  ++ c.sticks.map (fun s => .stick s.namePrefix s.allowSpin)
  ++ c.touchscreen.toList.map (fun t => .touchscreen t.geometry t.multitouch t.allowDrag)
  ++ c.taps.map .tap
  ++ c.game.toList.map .game
  ++ [.conflicts conflicts, .lone c.lone]
  ++ sides.toList.map .sides

/-- The layout that is described. -/
def toLayout (c : Config) : Except SetupError Layout := do
  let conflicts ← c.conflicts.mapM conflictPair
  let sides ← c.sides.mapM Sides.toPrefixes
  .ok (Layout.ofSteps (c.steps conflicts sides))

/-- The parser that is described. -/
def build (c : Config) : Except SetupError (Logged Event Parser) := do
  (← c.toLayout).build

end Config

end ChatPad
