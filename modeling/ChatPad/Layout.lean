import ChatPad.Layout.Game
import ChatPad.Parser.Plain
import ChatPad.Touch.Definition

/-!
# Controller layouts

A layout is everything that makes up a parser: the vocabulary, the limits of messages, the rules
across inputs and the side letters.  It starts out empty and is put together step by step.
Definitions are registered in the order of the steps, which is also their priority when several
match the same text.

Directions come in groups, as a D-pad or a stick: opposite directions of a group conflict, and so do
a spin of a stick and each of its directions.
-/

namespace ChatPad

/-- The name of the button that every touch presses. -/
def touchscreenName : String := "touchscreen"

/-- What the four directions of a group are called. -/
structure DirectionNames where
  up : String
  down : String
  left : String
  right : String
deriving DecidableEq, Repr

namespace DirectionNames

/-- The plain names with a prefix. -/
def withPrefix (p : String) : DirectionNames := ⟨p ++ "up", p ++ "down", p ++ "left", p ++ "right"⟩

def toList (names : DirectionNames) : List String := [names.up, names.down, names.left, names.right]

/-- Opposite directions conflict. -/
def conflicts (names : DirectionNames) : List (String × String) :=
  [(names.up, names.down), (names.left, names.right)]

/-- A spin conflicts with every direction. -/
def spinConflicts (names : DirectionNames) (spin : String) : List (String × String) :=
  names.toList.map fun direction => (spin, direction)

end DirectionNames

/-- The makings of a parser. -/
structure Layout where
  definitions : List Definition := []
  rules : Rules := {}
  limits : Limits := {}
  /-- The touchscreen that was registered last. -/
  screen : Option Geometry := none
  sides : Option SidePrefixes := none
  /-- The first mistake that was made. -/
  error : Option SetupError := none

namespace Layout

/-! ## Limits and sides -/

def withLengths (l : Layout) (setLength sequenceLength : Nat) : Layout :=
  { l with limits := { l.limits with setLength, sequenceLength } }

def withHold (l : Layout) (hold : Bool) : Layout := { l with limits := { l.limits with hold } }

def withSides (l : Layout) (sides : SidePrefixes) : Layout := { l with sides := some sides }

/-! ## Definitions and rules -/

/-- Registers definitions. -/
def define (l : Layout) (definitions : List Definition) : Layout :=
  { l with definitions := l.definitions ++ definitions }

/-- Adds pairs of buttons that may not share a set. -/
def withConflicts (l : Layout) (pairs : List (String × String)) : Layout :=
  { l with rules := { l.rules with conflicts := l.rules.conflicts ++ pairs } }

/-- Replaces the buttons that have to be alone. -/
def withLone (l : Layout) (lone : List String) : Layout := { l with rules := { l.rules with lone } }

/-- Keeps the first mistake. -/
def withError (l : Layout) (error : SetupError) : Layout :=
  { l with error := l.error.or (some error) }

/-! ## Buttons and analog inputs -/

def buttons (l : Layout) (names : List String) : Layout :=
  l.define (names.map fun name => .button name name true)

/-- Buttons that keep their name for display, or not, and press another button. -/
def mappedButtons (l : Layout) (keepsName : Bool) (pairs : List (String × String)) : Layout :=
  l.define (pairs.map fun (name, target) => .button name target keepsName)

def analogs (l : Layout) (names : List String) : Layout :=
  l.define (names.map fun name => .analog name name true)

/-- Analog inputs that keep their name for display, or not, and press another button. -/
def mappedAnalogs (l : Layout) (keepsName : Bool) (pairs : List (String × String)) : Layout :=
  l.define (pairs.map fun (name, target) => .analog name target keepsName)

/-! ## Directions -/

/-- Four buttons for the directions. -/
def dpad (l : Layout) (p : String) : Layout :=
  let names := DirectionNames.withPrefix p
  (l.buttons names.toList).withConflicts names.conflicts

/-- Four buttons that stand for the directions. -/
def mappedDpad (l : Layout) (keepsName : Bool) (names : DirectionNames) (p : String) : Layout :=
  let targets := DirectionNames.withPrefix p
  (l.mappedButtons keepsName (names.toList.zip targets.toList)).withConflicts targets.conflicts

/-- Four analog directions, and buttons for spinning the stick if that is allowed. -/
def stick (l : Layout) (p : String) (allowSpin : Bool) : Layout :=
  let names := DirectionNames.withPrefix p
  let l := (l.analogs names.toList).withConflicts names.conflicts
  if allowSpin then
    ((l.buttons [p ++ "spinl", p ++ "spinr"]).withConflicts
      (names.spinConflicts (p ++ "spinl"))).withConflicts (names.spinConflicts (p ++ "spinr"))
  else l

/-- A button for a spin of a stick, if it has a name. -/
def mappedSpin (l : Layout) (keepsName : Bool) (name : Option String) (target : String)
    (directions : DirectionNames) : Layout :=
  match name with
  | none => l
  | some name =>
    (l.define [.button name target keepsName]).withConflicts (directions.spinConflicts target)

/-- Four analog inputs that stand for the directions, and buttons for those spins that have a
name. -/
def mappedStick (l : Layout) (keepsName : Bool) (names : DirectionNames)
    (spinLeft spinRight : Option String) (p : String) : Layout :=
  let targets := DirectionNames.withPrefix p
  let l := (l.mappedAnalogs keepsName (names.toList.zip targets.toList)).withConflicts
    targets.conflicts
  (l.mappedSpin keepsName spinLeft (p ++ "spinl") targets).mappedSpin keepsName spinRight
    (p ++ "spinr") targets

/-! ## The touchscreen -/

/-- A touchscreen, with drags if they are allowed. -/
def touchscreen (l : Layout) (g : Geometry) (multitouch allowDrag : Bool) : Layout :=
  let l := if g.width = 0 ∨ g.height = 0 then l.withError (.zeroTouchscreen g.width g.height) else l
  let l := l.define [.touch touchscreenName g]
  let l := if allowDrag then l.define [.drag touchscreenName g] else l
  { l with screen := some g, rules := { l.rules with multitouch } }

/-- Where a named point is placed before any touchscreen is registered: where it is typed. -/
def unplaced : Geometry where
  width := Geometry.largest
  height := Geometry.largest

/-- A name that taps a fixed point of the touchscreen registered last. -/
def tap (l : Layout) (point : ScreenPoint) : Layout :=
  l.define [(Definition.button point.name point.name true).asTouch touchscreenName
    (l.screen.getD unplaced) point.x point.y true]

def taps (l : Layout) (points : List ScreenPoint) : Layout := points.foldl tap l

/-- The shortcuts of a game. -/
def game (l : Layout) (game : Game) : Layout := l.taps game.points

/-! ## Parsers -/

/-- The plain parser of a layout. -/
def plain (l : Layout) : Except SetupError PlainParser :=
  match l.error with
  | some error => .error error
  | none => PlainParser.ofDefinitions l.definitions l.limits

/-- The layers of a layout over a plain parser. -/
def layers (l : Layout) (base : Parser) : Parser :=
  match l.sides with
  | none => l.rules.checked base
  | some sides => sides.marked (l.rules.checked base)

/-- The parser of a layout, and the report that its grammar was compiled. -/
def build (l : Layout) : Except SetupError (Logged Event Parser) := do
  let plain ← l.plain
  .ok ⟨l.layers plain.parse, [plain.compiled]⟩

/-! ## Histories -/

/-- One step in putting a layout together. -/
inductive Step where
  | lengths (setLength sequenceLength : Nat)
  | hold (enabled : Bool)
  | sides (prefixes : SidePrefixes)
  | buttons (names : List String)
  | aliasedButtons (pairs : List (String × String))
  | remappedButtons (pairs : List (String × String))
  | analogs (names : List String)
  | aliasedAnalogs (pairs : List (String × String))
  | remappedAnalogs (pairs : List (String × String))
  | dpad (p : String)
  | aliasedDpad (names : DirectionNames) (p : String)
  | remappedDpad (names : DirectionNames) (p : String)
  | stick (p : String) (allowSpin : Bool)
  | aliasedStick (names : DirectionNames) (spinLeft spinRight : Option String) (p : String)
  | remappedStick (names : DirectionNames) (spinLeft spinRight : Option String) (p : String)
  | touchscreen (g : Geometry) (multitouch allowDrag : Bool)
  | tap (point : ScreenPoint)
  | game (game : Game)
  | conflicts (pairs : List (String × String))
  | lone (names : List String)
deriving Repr

/-- Takes one step. -/
def apply (l : Layout) : Step → Layout
  | .lengths setLength sequenceLength => l.withLengths setLength sequenceLength
  | .hold enabled => l.withHold enabled
  | .sides prefixes => l.withSides prefixes
  | .buttons names => l.buttons names
  | .aliasedButtons pairs => l.mappedButtons true pairs
  | .remappedButtons pairs => l.mappedButtons false pairs
  | .analogs names => l.analogs names
  | .aliasedAnalogs pairs => l.mappedAnalogs true pairs
  | .remappedAnalogs pairs => l.mappedAnalogs false pairs
  | .dpad p => l.dpad p
  | .aliasedDpad names p => l.mappedDpad true names p
  | .remappedDpad names p => l.mappedDpad false names p
  | .stick p allowSpin => l.stick p allowSpin
  | .aliasedStick names spinLeft spinRight p => l.mappedStick true names spinLeft spinRight p
  | .remappedStick names spinLeft spinRight p => l.mappedStick false names spinLeft spinRight p
  | .touchscreen g multitouch allowDrag => l.touchscreen g multitouch allowDrag
  | .tap point => l.tap point
  | .game game => l.game game
  | .conflicts pairs => l.withConflicts pairs
  | .lone names => l.withLone names

/-- The layout that steps lead to. -/
def ofSteps (steps : List Step) : Layout := steps.foldl apply {}

end Layout

end ChatPad
