import ChatPad.Number.Single
import ChatPad.Text.Digit

/-!
# Reading a number from its decimal text

A text is an optional sign followed by `inf`, `infinity` or `nan` in any case, or by decimal digits
with an optional point among or beside them and an optional exponent.  The value is rounded to the
nearest number once, from the exact decimal.
-/

namespace ChatPad.Single

open Text (isDigit digitsValue)

/-- Reads an optional sign: whether it is a minus, and the rest. -/
def readSign : List Char → Bool × List Char
  | '-' :: rest => (true, rest)
  | '+' :: rest => (false, rest)
  | rest => (false, rest)

/-- Reads the exponent at the end of a decimal text; without one it is zero. -/
def readExponent : List Char → Option Int
  | [] => some 0
  | e :: rest =>
    if e = 'e' ∨ e = 'E' then
      let (negative, digits) := readSign rest
      if digits ≠ [] ∧ digits.all isDigit then
        some (if negative then -(digitsValue digits : Int) else digitsValue digits)
      else none
    else none

/-- The number nearest to `digits * 10 ^ exponent`.  Beyond the powers of ten that matter for a
text of `count` digits the answer is zero or infinite. -/
def ofDecimal (negative : Bool) (digits count : Nat) (exponent : Int) : Single :=
  if digits = 0 ∨ exponent + count < -60 then finite negative 0
  else if 60 + (count : Int) < exponent then infinite negative
  else nearest negative (digits * Nat.pow 10 exponent.toNat) (Nat.pow 10 (-exponent).toNat)

/-- Reads an unsigned decimal text. -/
def readMagnitude (negative : Bool) (text : List Char) : Option Single := do
  let whole := text.takeWhile isDigit
  let rest := text.dropWhile isDigit
  let (places, rest) := match rest with
    | '.' :: rest => (rest.takeWhile isDigit, rest.dropWhile isDigit)
    | rest => ([], rest)
  let digits := whole ++ places
  if digits = [] then none
  let exponent ← readExponent rest
  some (ofDecimal negative (digitsValue digits) digits.length (exponent - places.length))

/-- Reads a number from its text. -/
def read? (text : String) : Option Single :=
  let (negative, rest) := readSign text.toList
  let word := String.ofList (rest.map Char.toLower)
  if word = "inf" ∨ word = "infinity" then some (infinite negative)
  else if word = "nan" then some nan
  else readMagnitude negative rest

end ChatPad.Single
