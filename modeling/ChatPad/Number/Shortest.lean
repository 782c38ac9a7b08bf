import ChatPad.Number.Single
import ChatPad.Text.Digit

/-!
# The shortest decimal text of a number

A number is written with the fewest decimal digits that still read back as the same number, and
of several such texts with the one nearest to it.  `Single.decimal` tries the powers of ten from
the coarsest down: a multiple of the power that rounds to the number is one of the two multiples
next to it.  The text is positional, never with an exponent, and has no trailing `.0`.
-/

namespace ChatPad.Single

/-- The multiples of `10 ^ exponent` next to `units` units that round to it, the better one, if
there is one.  The numbers that round to it reach halfway to both its neighbours, ends included if
it is an even multiple of its spacing. -/
def decimalOn (units : Nat) (exponent : Int) : Option Nat :=
  let finer := Nat.pow 10 (-exponent).toNat
  let coarser := unitsPerOne * Nat.pow 10 exponent.toNat
  let low := (2 * units - spacing (units - 1)) * finer
  let high := (2 * units + spacing units) * finer
  let even := units / spacing units % 2 = 0
  let roundsBack (multiple : Nat) : Bool :=
    let place := 2 * multiple * coarser
    if even then low ≤ place && place ≤ high else low < place && place < high
  let below := units * finer / coarser
  let rest := units * finer % coarser
  match roundsBack below, roundsBack (below + 1) with
  | true, true => some (if coarser ≤ 2 * rest then below + 1 else below)
  | true, false => some below
  | false, true => some (below + 1)
  | false, false => none

/-- The powers of ten that a shortest text can end at: the largest number is below `10 ^ 39`, and
a tenth of the smallest spacing is finer than any digit that is needed. -/
def decimalExponents : List Int :=
  (List.range 85).map fun (n : Nat) => 38 - (n : Int)

/-- The shortest decimal `(digits, exponent)` that reads back as a positive count of units. -/
def decimal (units : Nat) : Nat × Int :=
  (decimalExponents.findSome? fun e => (decimalOn units e).map (·, e)).getD (0, 0)

/-- `digits * 10 ^ exponent` with every digit in its place. -/
def positional (digits : Nat) : Int → String
  | .ofNat zeros => String.ofList (Text.decimalDigits digits ++ List.replicate zeros '0')
  | .negSucc n =>
    let shown := Text.decimalDigits digits
    let padded := List.replicate (n + 2 - shown.length) '0' ++ shown
    let whole := padded.length - (n + 1)
    String.ofList (padded.take whole ++ '.' :: padded.drop whole)

/-- The text of a number. -/
def text : Single → String
  | nan => "NaN"
  | infinite negative => if negative then "-inf" else "inf"
  | finite negative units =>
    let magnitude :=
      if units = 0 then "0"
      else
        let (digits, exponent) := decimal units
        positional digits exponent
    if negative then "-" ++ magnitude else magnitude

end ChatPad.Single
