import ChatPad.Toml.Text
import ChatPad.Toml.Value

/-!
# Numbers and points in time

Integers are decimal with an optional sign and no needless zeros in front, or unsigned in one of the
bases sixteen, eight and two, and have 64 bits.  An underscore may stand between two digits.  A
number with a point or an exponent is a float, and so are `inf` and `nan`.

A date has three parts, a time of day three or four; both together may have an offset.
-/

namespace ChatPad.Toml

open Reader

/-- Whether a character is a decimal digit. -/
def isDecimal (c : Char) : Bool := '0' ≤ c && c ≤ '9'

/-- Takes digits, of which any two may have an underscore between them. -/
def digits (isDigit : Char → Bool) : Reader (List Char) := do
  let first ← one isDigit
  let rest ← items (sees fun c => isDigit c || c == '_') do
    discard <| wordIf ['_']
    one isDigit
  pure (first :: rest)

/-- Takes an optional sign: whether it is a minus. -/
def sign : Reader Bool := do
  if ← wordIf ['-'] then pure true
  else
    discard <| wordIf ['+']
    pure false

/-- Takes a number of decimal digits, whose value has to lie in a range. -/
def digitsBetween (count lower upper : Nat) : Reader Nat := do
  let value := valueInBase 10 (← exactly isDecimal count)
  if lower ≤ value ∧ value ≤ upper then pure value else failure

/-! ## Integers and floats -/

/-- Takes the digits of an unsigned integer in some base. -/
def integerInBase (base : Nat) (isDigit : Char → Bool) : Reader Int := do
  pure (valueInBase base (← digits isDigit))

/-- Takes an exponent, if there is one. -/
def exponent? : Reader (Option Int) := do
  if ← sees fun c => c == 'e' || c == 'E' then
    discard <| one fun _ => true
    let negative ← sign
    let value : Int := valueInBase 10 (← digits isDecimal)
    pure (some (if negative then -value else value))
  else pure none

/-- Whether `value * 10 ^ exponent` rounds to infinity in double precision.  A value of `count`
digits with an exponent that is far too small or far too large is not looked at closely. -/
def isHuge (value count : Nat) (exponent : Int) : Bool :=
  if value = 0 ∨ exponent + count ≤ 308 then false
  else if 310 ≤ exponent then true
  else Nat.pow 2 1024 - Nat.pow 2 970 ≤
    value * Nat.pow 10 exponent.toNat / Nat.pow 10 (-exponent).toNat

/-- Takes the rest of a number after its sign: its value, if it is an integer.  Floats without a
minus may not be too large. -/
def decimalNumber (negative : Bool) : Reader (Option Int) := do
  let whole ← if ← wordIf ['0'] then pure ['0'] else digits isDecimal
  let places ← if ← wordIf ['.'] then some <$> digits isDecimal else pure none
  let exponent ← exponent?
  if places.isNone ∧ exponent.isNone then
    let value : Int := valueInBase 10 whole
    pure (some (if negative then -value else value))
  else
    let places := places.getD []
    let all := whole ++ places
    if !negative && isHuge (valueInBase 10 all) all.length (exponent.getD 0 - places.length) then
      failure
    else pure none

/-- Takes a number: its value, if it is an integer. -/
def numeral : Reader (Option Int) := do
  if ← wordIf ['0', 'x'] then some <$> integerInBase 16 isHexDigit
  else if ← wordIf ['0', 'o'] then some <$> integerInBase 8 fun c => '0' ≤ c && c ≤ '7'
  else if ← wordIf ['0', 'b'] then some <$> integerInBase 2 fun c => c == '0' || c == '1'
  else
    let negative ← sign
    if ← wordIf ['i', 'n', 'f'] then pure none
    else if ← wordIf ['n', 'a', 'n'] then pure none
    else decimalNumber negative

/-- Takes a number. -/
def number : Reader Value := do
  match ← spelled numeral with
  | (none, spelling) => pure (.float spelling)
  | (some value, _) =>
    if -Int.pow 2 63 ≤ value ∧ value < Int.pow 2 63 then pure (.integer value) else failure

/-! ## Points in time -/

/-- Whether digits are next, as many as given, and then a certain character. -/
def digitsAhead (count : Nat) (mark : Char) : Reader Bool := fun text =>
  some ((text.take count).countP isDecimal == count && text[count]? == some mark, text)

/-- How many days a month has. -/
def daysIn (year month : Nat) : Nat :=
  if month = 2 then
    if year % 4 = 0 ∧ (year % 100 ≠ 0 ∨ year % 400 = 0) then 29 else 28
  else if month = 4 ∨ month = 6 ∨ month = 9 ∨ month = 11 then 30
  else 31

/-- Takes a date. -/
def date : Reader Unit := do
  let year ← digitsBetween 4 0 9999
  word ['-']
  let month ← digitsBetween 2 1 12
  word ['-']
  discard <| digitsBetween 2 1 (daysIn year month)

/-- Takes a time of day. -/
def timeOfDay : Reader Unit := do
  discard <| digitsBetween 2 0 23
  word [':']
  discard <| digitsBetween 2 0 59
  word [':']
  discard <| digitsBetween 2 0 60
  if ← wordIf ['.'] then
    discard <| one isDecimal
    discard <| span isDecimal

/-- Takes an offset, if there is one. -/
def offset? : Reader Unit := do
  if ← sees fun c => c == 'Z' || c == 'z' then discard <| one fun _ => true
  else if ← sees fun c => c == '+' || c == '-' then
    discard <| one fun _ => true
    discard <| digitsBetween 2 0 23
    word [':']
    discard <| digitsBetween 2 0 59

/-- Whether a time of day is next, after the one character that sets it off from a date. -/
def timeAhead : Reader Bool := fun text =>
  match text with
  | c :: rest =>
    if c == 'T' || c == 't' || c == ' ' then
      (digitsAhead 2 ':' rest).map fun (ahead, _) => (ahead, text)
    else some (false, text)
  | [] => some (false, text)

/-- Takes a date, and the time of day and the offset if they are there. -/
def dateAndTime : Reader Unit := do
  date
  if ← timeAhead then
    discard <| one fun _ => true
    timeOfDay
    offset?

/-- Takes a number or a point in time, which begin alike. -/
def numberOrMoment : Reader Value := do
  if ← digitsAhead 4 '-' then
    let (_, spelling) ← spelled dateAndTime
    pure (.dateTime spelling)
  else if ← digitsAhead 2 ':' then
    let (_, spelling) ← spelled timeOfDay
    pure (.dateTime spelling)
  else number

end ChatPad.Toml
