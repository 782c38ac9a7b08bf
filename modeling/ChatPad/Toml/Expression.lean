import ChatPad.Toml.Number
import ChatPad.Toml.Table

/-!
# Keys and values

A key is one name or several, joined by dots.  A value is a string, a number, a truth value, a point
in time, an array or an inline table.  Arrays may spread over lines and have a comma at their end;
inline tables may not.  Keys and values can only be nested so deep.
-/

namespace ChatPad.Toml

open Reader

/-! ## Keys -/

/-- How many names a key may have, and how many arrays and inline tables may be nested. -/
def depthLimit : Nat := 79

/-- Whether a character may appear in a name without quotes. -/
def isBare (c : Char) : Bool :=
  ('a' ≤ c && c ≤ 'z') || ('A' ≤ c && c ≤ 'Z') || isDecimal c || c == '_' || c == '-'

/-- Takes a name, with or without quotes. -/
def name : Reader String := do
  spaces
  let text ←
    if ← ahead ['"'] then basicString
    else if ← ahead ['\''] then literalString
    else do
      let first ← one isBare
      pure (first :: (← span isBare))
  spaces
  pure (String.ofList text)

/-- Takes a key: the names that lead to it, and its own. -/
def key : Reader (List String × String) := do
  let first ← name
  let others ← items (ahead ['.']) do
    word ['.']
    name
  if others.length < depthLimit then
    pure ((first :: others).dropLast, (first :: others).getLast (List.cons_ne_nil _ _))
  else failure

/-! ## Values -/

/-- Takes a key and its value. -/
def pair (value : Reader Value) : Reader Pair := do
  let (path, key) ← key
  word ['=']
  spaces
  let value ← value
  spaces
  pure ⟨path, key, value⟩

/-- Takes an array. -/
def array (value : Reader Value) : Reader Value := do
  word ['[']
  gap
  let element : Reader Value := do
    let value ← value
    gap
    unless ← ahead [']'] do
      word [',']
      gap
    pure value
  let elements ← items (do return !(← ahead [']'])) element
  word [']']
  pure (.array elements)

/-- Takes an inline table. -/
def inlineTable (value : Reader Value) : Reader Value := do
  word ['\x7b']
  spaces
  let pairs ←
    if ← ahead ['\x7d'] then pure []
    else do
      let first ← pair value
      let others ← items (ahead [',']) do
        word [',']
        pair value
      pure (first :: others)
  word ['\x7d']
  match Table.ofPairs pairs with
  | none => failure
  | some table => pure (.table (Table.finish table))

/-- Takes a value; arrays and inline tables are left to another reader. -/
def valueOr (nested : Reader Value) : Reader Value := do
  if ← sees fun c => c == '[' || c == '\x7b' then nested
  else if ← sees fun c => c == '"' || c == '\'' then
    pure (.string (String.ofList (← anyString)))
  else if ← wordIf ['t', 'r', 'u', 'e'] then pure (.boolean true)
  else if ← wordIf ['f', 'a', 'l', 's', 'e'] then pure (.boolean false)
  else numberOrMoment

/-- Takes a value that nests arrays and inline tables at most as deep as given. -/
def value : Nat → Reader Value
  | 0 => valueOr failure
  | depth + 1 => valueOr do
    if ← ahead ['['] then array (value depth) else inlineTable (value depth)

end ChatPad.Toml
