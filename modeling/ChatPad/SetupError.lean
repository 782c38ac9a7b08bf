import ChatPad.Text.Digit
import ChatPad.Text.Quoted

/-!
# Errors of the setup

A message that is not an input is simply no input.  Errors only arise while a parser is set up, from
a configuration that describes none.
-/

namespace ChatPad

/-- Why a parser cannot be set up. -/
inductive SetupError where
  | noDefinitions
  | zeroSetLength
  | zeroSequenceLength
  | zeroTouchscreen (width height : Nat)
  | malformedConflict (entry : List String)
  | malformedSidePrefix (text : String)
  | unreadableFile (path : String)
  | invalidDocument
deriving DecidableEq, Repr

/-- The text of an error. -/
def SetupError.message : SetupError → String
  | noDefinitions => "at least one input definition is required"
  | zeroSetLength => "max set length must be at least 1"
  | zeroSequenceLength => "max sequence length must be at least 1"
  | zeroTouchscreen width height =>
    "touchscreen dimensions must be non-zero (got " ++ Text.decimal width ++ "x"
      ++ Text.decimal height ++ ")"
  | malformedConflict entry =>
    "conflict entries must name exactly two buttons, got " ++ Text.quotedList entry
  | malformedSidePrefix text => "side prefix must be a single character, got " ++ Text.quoted text
  | unreadableFile path => "failed to read config file " ++ path
  | invalidDocument => "invalid parser config"

end ChatPad
