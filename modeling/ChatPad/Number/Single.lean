/-!
# Single-precision numbers

Strengths and touchscreen scales are binary numbers of 24 significant digits.  The smallest
positive one is `2 ^ (-149)` and every finite one is a whole number of these units, so a number is
its sign and its count of units, and all arithmetic is exact arithmetic on counts followed by one
rounding.

* `Single.nearest` rounds a quotient to the nearest number, a tie to the even neighbour;
* `Single.mul`, `Single.div` and `Single.distance` are the exact result, rounded once;
* `Single.truncate` is the whole part, kept below a limit.
-/

namespace ChatPad

/-- A single-precision number: no number, an infinity, or a count of units of `2 ^ (-149)`. -/
inductive Single where
  | nan
  | infinite (negative : Bool)
  | finite (negative : Bool) (units : Nat)
deriving DecidableEq, Repr

namespace Single

/-- The count of units that make one. -/
def unitsPerOne : Nat := Nat.pow 2 149

/-- The first count of units that is too large for a finite number: `2 ^ 128` of ones. -/
def overflow : Nat := Nat.pow 2 277

/-- The distance between neighbouring numbers at a count of units: a count has at most 24
significant binary digits. -/
def spacing (units : Nat) : Nat := Nat.pow 2 (units.log2 + 1 - 24)

/-- The count of units nearest to `num / den` units; of two equally near counts the one that is
an even multiple of the spacing. -/
def roundUnits (num den : Nat) : Nat :=
  let step := den * spacing (num / den)
  let down := num / step
  let rest := num % step
  let count := if step < 2 * rest ∨ (2 * rest = step ∧ down % 2 = 1) then down + 1 else down
  count * spacing (num / den)

/-- A count of units as a number, infinite from `overflow` on. -/
def ofUnits (negative : Bool) (units : Nat) : Single :=
  if units < overflow then finite negative units else infinite negative

/-- The number nearest to `num / den`. -/
def nearest (negative : Bool) (num den : Nat) : Single :=
  ofUnits negative (roundUnits (num * unitsPerOne) den)

/-- The number nearest to a whole number. -/
def ofNat (n : Nat) : Single := nearest false n 1

/-- The number one. -/
def one : Single := finite false unitsPerOne

/-- Equality of numbers: both zeros are equal, and `nan` equals nothing. -/
def equal : Single → Single → Bool
  | finite n a, finite m b => a == b && (n == m || a == 0)
  | infinite n, infinite m => n == m
  | _, _ => false

/-- The rounded product. -/
def mul : Single → Single → Single
  | finite n a, finite m b =>
    ofUnits (n != m) (roundUnits (a * b) unitsPerOne)
  | infinite n, infinite m => infinite (n != m)
  | infinite n, finite m b => if b = 0 then nan else infinite (n != m)
  | finite n a, infinite m => if a = 0 then nan else infinite (n != m)
  | _, _ => nan

/-- The rounded quotient. -/
def div : Single → Single → Single
  | finite n a, finite m b =>
    if b = 0 then (if a = 0 then nan else infinite (n != m)) else nearest (n != m) a b
  | infinite n, finite m _ => infinite (n != m)
  | finite n _, infinite m => finite (n != m) 0
  | _, _ => nan

/-- The rounded distance between two numbers. -/
def distance : Single → Single → Single
  | finite n a, finite m b =>
    ofUnits false (roundUnits (if n = m then max a b - min a b else a + b) 1)
  | infinite n, infinite m => if n = m then nan else infinite false
  | nan, _ => nan
  | _, nan => nan
  | _, _ => infinite false

/-- The gap between one and the next larger number, `2 ^ (-23)`, in units. -/
def epsilonUnits : Nat := Nat.pow 2 126

/-- Whether the rounded distance of two numbers is below `2 ^ (-23)`. -/
def isClose (a b : Single) : Bool :=
  match distance a b with
  | finite _ units => units < epsilonUnits
  | _ => false

/-- Whether a number lies between zero and one, both included. -/
def isFraction : Single → Bool
  | finite negative units => units ≤ unitsPerOne && (!negative || units == 0)
  | _ => false

/-- The whole part of a number; zero for what has none, and at most `limit`. -/
def truncate (limit : Nat) : Single → Nat
  | finite negative units => if negative then 0 else min limit (units / unitsPerOne)
  | infinite negative => if negative then 0 else limit
  | nan => 0

end Single

end ChatPad
