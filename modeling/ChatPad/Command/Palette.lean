/-!
# Colors

Reports are colored by the escape sequences that terminals understand, or not at all.
-/

namespace ChatPad.Command

/-- What a piece of a report looks like. -/
inductive Look where
  | bold
  | dim
  | red
  | green
  | yellow
  | blue
  | cyan
  | gray
deriving DecidableEq, Repr

/-- The number that stands for a look in an escape sequence. -/
def Look.code : Look → String
  | bold => "1"
  | dim => "2"
  | red => "31"
  | green => "32"
  | yellow => "33"
  | blue => "34"
  | cyan => "36"
  | gray => "90"

/-- Whether reports are colored. -/
structure Palette where
  colored : Bool
deriving DecidableEq, Repr

/-- A text with a look. -/
def Palette.paint (palette : Palette) (look : Look) (text : String) : String :=
  if palette.colored then "\x1b[" ++ look.code ++ "m" ++ text ++ "\x1b[0m" else text

end ChatPad.Command
