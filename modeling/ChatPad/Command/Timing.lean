import ChatPad.Command.Palette
import ChatPad.Text.Digit

/-!
# Timing

How long the plain parser took for a message, in nanoseconds, and the line that says so.
-/

namespace ChatPad.Command

/-- A count of some unit out of a count of nanoseconds, with as many decimal places as it takes. -/
def inUnit (nanoseconds places : Nat) (unit : String) : String :=
  let fraction := Text.decimalDigits (Nat.pow 10 places + nanoseconds % Nat.pow 10 places)
  let shown := ((fraction.drop 1).reverse.dropWhile (· == '0')).reverse
  Text.decimal (nanoseconds / Nat.pow 10 places)
    ++ (if shown.isEmpty then "" else "." ++ String.ofList shown) ++ unit

/-- A duration, in the largest unit of which it lasts at least one. -/
def durationText (nanoseconds : Nat) : String :=
  if Nat.pow 10 9 ≤ nanoseconds then inUnit nanoseconds 9 "s"
  else if Nat.pow 10 6 ≤ nanoseconds then inUnit nanoseconds 6 "ms"
  else if Nat.pow 10 3 ≤ nanoseconds then inUnit nanoseconds 3 "µs"
  else inUnit nanoseconds 0 "ns"

/-- How long the parts of parsing took, in nanoseconds. -/
structure Timing where
  total : Nat
  matching : Nat
  assembly : Nat
deriving DecidableEq, Repr

/-- The line on how long parsing took. -/
def Timing.line (palette : Palette) (timing : Timing) : String :=
  "  Total: " ++ palette.paint .green (durationText timing.total)
    ++ "  │  Match: " ++ palette.paint .cyan (durationText timing.matching)
    ++ "  │  Assemble: " ++ palette.paint .dim (durationText timing.assembly)

end ChatPad.Command
