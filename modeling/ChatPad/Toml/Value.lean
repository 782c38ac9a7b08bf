/-!
# TOML values

The values that a TOML document is made of.  Entries of a table are in the order in which they were
written, and no key appears twice.  Floats and points in time keep their spelling: a parser
configuration has no use for them, and all that matters is that they are neither integers nor text.
-/

namespace ChatPad.Toml

/-- A TOML value. -/
inductive Value where
  | string (text : String)
  | integer (value : Int)
  | float (spelling : String)
  | boolean (value : Bool)
  | dateTime (spelling : String)
  | array (items : List Value)
  | table (entries : List (String × Value))
deriving Repr

namespace Value

/-- The text of a string. -/
def string? : Value → Option String
  | .string text => some text
  | _ => none

/-- A truth value. -/
def boolean? : Value → Option Bool
  | .boolean value => some value
  | _ => none

/-- An integer that is not negative. -/
def natural? : Value → Option Nat
  | .integer (.ofNat n) => some n
  | _ => none

/-- An array whose items can all be read in some way. -/
def list? {α : Type} (item? : Value → Option α) : Value → Option (List α)
  | .array items => items.mapM item?
  | _ => none

/-- Whether a value is an array or a table with nothing in it. -/
def isEmptyCollection : Value → Bool
  | .array items => items.isEmpty
  | .table entries => entries.isEmpty
  | _ => false

end Value

end ChatPad.Toml
