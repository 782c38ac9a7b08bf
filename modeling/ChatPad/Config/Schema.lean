import ChatPad.Config
import ChatPad.Toml.Document
import ChatPad.Toml.Record

/-!
# Configurations in TOML

A configuration is a TOML document whose keys are the fields of the configuration.  Fields that are
left out have their default, if there is one.  Keys that mean nothing are refused at the top and for
the touchscreen; elsewhere they do not count.
-/

namespace ChatPad

open Toml (Value Fields)

/-! ## Parts -/

/-- A coordinate or a size on a touchscreen. -/
def Geometry.coordinate? (value : Value) : Option Nat := do
  let n ← value.natural?
  if n ≤ largest then some n else none

/-- A game, by its key.  The key may stand for an empty collection instead of on its own. -/
def Game.ofValue? : Value → Option Game
  | .string key => ofKey? key
  | .table [(key, content)] => if content.isEmptyCollection then ofKey? key else none
  | _ => none

/-- A named point of the touchscreen. -/
def ScreenPoint.ofValue? (value : Value) : Option ScreenPoint := do
  let fields ← value.fields? ["name", "x", "y"] false
  some {
    name := ← fields.required "name" Value.string?
    x := ← fields.required "x" Geometry.coordinate?
    y := ← fields.required "y" Geometry.coordinate? }

namespace Config

/-- A name for another button. -/
def Mapping.ofValue? (value : Value) : Option Mapping := do
  let fields ← value.fields? ["name", "maps_to"] false
  some {
    name := ← fields.required "name" Value.string?
    target := ← fields.required "maps_to" Value.string? }

/-- A stick. -/
def Stick.ofValue? (value : Value) : Option Stick := do
  let fields ← value.fields? ["prefix", "allow_spin"] false
  let usual : Stick := {}
  some {
    namePrefix := ← fields.optional "prefix" usual.namePrefix Value.string?
    allowSpin := ← fields.optional "allow_spin" usual.allowSpin Value.boolean? }

/-- A touchscreen. -/
def Touchscreen.ofValue? (value : Value) : Option Touchscreen := do
  let fields ← value.fields? ["width", "height", "allow_drag", "multitouch", "x_offset", "y_offset",
    "scale_width", "scale_height"] true
  some {
    geometry := {
      width := ← fields.required "width" Geometry.coordinate?
      height := ← fields.required "height" Geometry.coordinate?
      xOffset := ← fields.optional "x_offset" 0 Geometry.coordinate?
      yOffset := ← fields.optional "y_offset" 0 Geometry.coordinate?
      scaleWidth := ← fields.optional "scale_width" 0 Geometry.coordinate?
      scaleHeight := ← fields.optional "scale_height" 0 Geometry.coordinate? }
    allowDrag := ← fields.optional "allow_drag" false Value.boolean?
    multitouch := ← fields.optional "multitouch" false Value.boolean? }

/-- The letters of the sides. -/
def Sides.ofValue? (value : Value) : Option Sides := do
  let fields ← value.fields? ["allow_directed", "left", "right"] false
  let usual : Sides := {}
  some {
    allowDirected := ← fields.optional "allow_directed" usual.allowDirected Value.boolean?
    left := ← fields.optional "left" usual.left Value.string?
    right := ← fields.optional "right" usual.right Value.string? }

/-! ## Documents -/

/-- The names of the fields of a configuration. -/
def fieldNames : List String :=
  ["max_set_length", "max_sequence_length", "hold_enabled", "buttons", "aliased_buttons",
    "remapped_buttons", "analog_inputs", "dpad", "analog_sticks", "touchscreen",
    "touchscreen_aliases", "game_aliases", "conflicts", "lone_buttons", "sides"]

/-- A value that is there. -/
def present {α : Type} (read? : Value → Option α) (value : Value) : Option (Option α) :=
  (read? value).map some

/-- The configuration that the entries of a document describe. -/
def ofEntries? (entries : List (String × Value)) : Option Config := do
  let fields ← Fields.ofEntries fieldNames true entries
  let usual : Config := {}
  let texts := Value.list? Value.string?
  let mappings := Value.list? Mapping.ofValue?
  some {
    setLength := ← fields.optional "max_set_length" usual.setLength Value.natural?
    sequenceLength := ← fields.optional "max_sequence_length" usual.sequenceLength Value.natural?
    hold := ← fields.optional "hold_enabled" usual.hold Value.boolean?
    buttons := ← fields.optional "buttons" usual.buttons texts
    aliasedButtons := ← fields.optional "aliased_buttons" usual.aliasedButtons mappings
    remappedButtons := ← fields.optional "remapped_buttons" usual.remappedButtons mappings
    analogs := ← fields.optional "analog_inputs" usual.analogs texts
    dpad := ← fields.optional "dpad" usual.dpad (present Value.string?)
    sticks := ← fields.optional "analog_sticks" usual.sticks (Value.list? Stick.ofValue?)
    touchscreen :=
      ← fields.optional "touchscreen" usual.touchscreen (present Touchscreen.ofValue?)
    taps := ← fields.optional "touchscreen_aliases" usual.taps (Value.list? ScreenPoint.ofValue?)
    game := ← fields.optional "game_aliases" usual.game (present Game.ofValue?)
    conflicts := ← fields.optional "conflicts" usual.conflicts (Value.list? texts)
    lone := ← fields.optional "lone_buttons" usual.lone texts
    sides := ← fields.optional "sides" usual.sides (present Sides.ofValue?) }

/-- The configuration that a document describes. -/
def ofDocument (document : String) : Except SetupError Config :=
  match (Toml.parse? document).bind ofEntries? with
  | some config => .ok config
  | none => .error .invalidDocument

/-- The configuration in a file, of which the content is given if it could be read. -/
def ofFile (path : String) (content : Option String) : Except SetupError Config :=
  match content with
  | some document => ofDocument document
  | none => .error (.unreadableFile path)

end Config

end ChatPad
