import ChatPad.Number.Single

/-!
# Touchscreen geometry

Coordinates are typed in the screen's own resolution and have to lie on it.  They are then scaled
and shifted to where the screen is shown: on a screen of width 240 that is shown 480 wide and ten
points from the left, the typed `120` is executed at `250`.
-/

namespace ChatPad

/-- The size of a touchscreen, and where and how large it is shown. -/
structure Geometry where
  /-- Typed horizontal coordinates are below the width. -/
  width : Nat
  /-- Typed vertical coordinates are below the height. -/
  height : Nat
  xOffset : Nat := 0
  yOffset : Nat := 0
  /-- The width it is scaled to, zero for its own. -/
  scaleWidth : Nat := 0
  /-- The height it is scaled to, zero for its own. -/
  scaleHeight : Nat := 0
deriving DecidableEq, Repr

namespace Geometry

/-- The largest coordinate there is; larger results are cut down to it. -/
def largest : Nat := Nat.pow 2 32 - 1

/-- The factor from a dimension to the one it is scaled to, in single precision. -/
def scale (target dimension : Nat) : Single :=
  if 0 < target ∧ 0 < dimension then (Single.ofNat target).div (Single.ofNat dimension) else .one

/-- Where a coordinate is executed: scaled in single precision, cut to a whole number, shifted. -/
def place (value : Nat) (scale : Single) (offset : Nat) : Nat :=
  let scaled :=
    if scale.equal .one then value else ((Single.ofNat value).mul scale).truncate largest
  min (scaled + offset) largest

def xScale (g : Geometry) : Single := scale g.scaleWidth g.width

def yScale (g : Geometry) : Single := scale g.scaleHeight g.height

/-- Whether a typed point lies on the screen. -/
def contains (g : Geometry) (x y : Nat) : Bool := x < g.width && y < g.height

/-- Where a typed point is executed. -/
def transform (g : Geometry) (x y : Nat) : Nat × Nat :=
  (place x g.xScale g.xOffset, place y g.yScale g.yOffset)

end Geometry

end ChatPad
