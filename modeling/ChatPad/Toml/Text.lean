import ChatPad.Toml.Blank

/-!
# Strings

A string stands in double quotes, where a backslash escapes, or in single quotes, where nothing
does.  In three quotes of a kind it may span lines: a line end right after the opening quotes is
left out, and every other one counts as a line feed.  Three quotes or more end such a string, and
up to two of them belong to it.
-/

namespace ChatPad.Toml

open Reader

/-- Whether a character is a hexadecimal digit. -/
def isHexDigit (c : Char) : Bool :=
  ('0' ≤ c && c ≤ '9') || ('a' ≤ c && c ≤ 'f') || ('A' ≤ c && c ≤ 'F')

/-- The value of a hexadecimal digit. -/
def hexDigitValue (c : Char) : Nat :=
  if c ≤ '9' then c.toNat - '0'.toNat
  else if c ≤ 'F' then c.toNat - 'A'.toNat + 10
  else c.toNat - 'a'.toNat + 10

/-- The value of a run of digits in some base. -/
def valueInBase (base : Nat) (digits : List Char) : Nat :=
  digits.foldl (fun value c => base * value + hexDigitValue c) 0

/-- Takes the digits of an escape by code point: the character with this code point, unless there
is none. -/
def codePoint (count : Nat) : Reader Char := do
  let digits ← exactly isHexDigit count
  let code := valueInBase 16 digits
  if code.isValidChar then pure (Char.ofNat code) else failure

/-- Takes an escape. -/
def escape : Reader Char := do
  word ['\\']
  match ← one fun _ => true with
  | 'b' => pure '\x08'
  | 't' => pure '\t'
  | 'n' => pure '\n'
  | 'f' => pure '\x0c'
  | 'r' => pure '\r'
  | '"' => pure '"'
  | '\\' => pure '\\'
  | 'u' => codePoint 4
  | 'U' => codePoint 8
  | _ => failure

/-- Whether a quote is not next. -/
def noQuote (quote : Char) : Reader Bool := do
  return !(← ahead [quote])

/-- Takes a string in double quotes on one line. -/
def basicString : Reader (List Char) := do
  word ['"']
  let text ← items (noQuote '"') do
    if ← ahead ['\\'] then escape else one isPlain
  word ['"']
  pure text

/-- Takes a string in single quotes on one line. -/
def literalString : Reader (List Char) := do
  word ['\'']
  let text ← items (noQuote '\'') (one isPlain)
  word ['\'']
  pure text

/-- Whether a backslash at the end of a line is next, which leaves the line end out. -/
def foldAhead : Reader Bool := fun text =>
  match text with
  | '\\' :: rest => (newlineAhead (rest.dropWhile isSpace)).map fun (ahead, _) => (ahead, text)
  | _ => some (false, text)

/-- Takes a backslash at the end of a line, with all blanks and line ends that follow. -/
def fold : Reader Unit := do
  word ['\\']
  spaces
  newline
  discard <| items (do if ← sees isSpace then pure true else newlineAhead) do
    if ← sees isSpace then spaces else newline

/-- Takes a piece of a string over several lines. -/
def piece (escapes : Bool) : Reader (List Char) := do
  if ← sees fun c => c == '\n' || c == '\r' then
    newline
    pure ['\n']
  else if escapes then
    if ← foldAhead then
      fold
      pure []
    else if ← ahead ['\\'] then pure [← escape]
    else pure [← one isPlain]
  else pure [← one isPlain]

/-- Takes a string over several lines. -/
def longString (quote : Char) (escapes : Bool) : Reader (List Char) := do
  let quotes := [quote, quote, quote]
  word quotes
  if ← newlineAhead then newline
  let pieces ← items (do return !(← ahead quotes)) (piece escapes)
  word quotes
  let one ← wordIf [quote]
  let two ← wordIf [quote]
  pure (pieces.flatten ++ (if one then [quote] else []) ++ if two then [quote] else [])

/-- Takes a string of any kind. -/
def anyString : Reader (List Char) := do
  if ← ahead ['"', '"', '"'] then longString '"' true
  else if ← ahead ['\'', '\'', '\''] then longString '\'' false
  else if ← ahead ['"'] then basicString
  else literalString

end ChatPad.Toml
