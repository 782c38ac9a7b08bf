import ChatPad.Layout
import ChatPad.Proofs.Definition.BuiltIn
import Mathlib.Data.List.Induction

/-!
# What a history leads to

A layout is the result of its steps.  Two things can be told of it without going through the steps one
by one:

* `Layout.Defines.apply`, `Layout.builtIn_of_mem_ofSteps`: what is registered, and that all of it is
  built-in;
* `Layout.limits_ofSteps`, `Layout.sides_ofSteps`, `Layout.screen_ofSteps`: for the limits, the sides
  and the touchscreen, the last step that sets them decides.

Both are proved for one step after any others, and then for all steps.
-/

namespace ChatPad.Layout

theorem ofSteps_concat (steps : List Step) (step : Step) :
    ofSteps (steps ++ [step]) = apply (ofSteps steps) step := by
  rw [ofSteps, List.foldl_append]
  rfl

/-! ## What a step sets -/

namespace Step

/-- The lengths of sets and sequences that a step sets. -/
def lengths? : Step → Option (Nat × Nat)
  | .lengths setLength sequenceLength => some (setLength, sequenceLength)
  | _ => none

/-- Whether holding is enabled, if a step sets it. -/
def hold? : Step → Option Bool
  | .hold enabled => some enabled
  | _ => none

/-- The side letters that a step sets. -/
def sides? : Step → Option SidePrefixes
  | .sides prefixes => some prefixes
  | _ => none

/-- The touchscreen that a step registers. -/
def screen? : Step → Option Geometry
  | .touchscreen g _ _ => some g
  | _ => none

/-- The points that a step gives names to. -/
def points : Step → List ScreenPoint
  | .tap point => [point]
  | .game shortcuts => shortcuts.points
  | _ => []

end Step

/-! ## Definitions -/

/-- All definitions of the layout have a property. -/
def Defines (P : Definition → Prop) (l : Layout) : Prop := ∀ d ∈ l.definitions, P d

/-- A name that taps a point through a touchscreen, or where it is typed if there is none. -/
def tapDefinition (screen : Option Geometry) (point : ScreenPoint) : Definition :=
  (Definition.button point.name point.name true).asTouch touchscreenName (screen.getD unplaced)
    point.x point.y true

namespace Defines

variable {P : Definition → Prop} {l : Layout}

theorem define (h : l.Defines P) {definitions : List Definition}
    (hdefinitions : ∀ d ∈ definitions, P d) : (l.define definitions).Defines P := by
  intro d hd
  rcases List.mem_append.mp hd with hd | hd
  · exact h d hd
  · exact hdefinitions d hd

theorem defineMap (h : l.Defines P) {α : Type} {f : α → Definition} (hf : ∀ a, P (f a))
    (as : List α) : (l.define (as.map f)).Defines P :=
  h.define (List.forall_mem_map.mpr fun a _ => hf a)

theorem defineOne (h : l.Defines P) {d : Definition} (hd : P d) : (l.define [d]).Defines P :=
  h.define (by simpa using hd)

theorem withConflicts (h : l.Defines P) (pairs : List (String × String)) :
    (l.withConflicts pairs).Defines P := h

section Buttons

variable (hbutton : ∀ name target keepsName, P (.button name target keepsName))
include hbutton

theorem buttons (h : l.Defines P) (names : List String) : (l.buttons names).Defines P :=
  h.defineMap (fun name => hbutton name name true) names

theorem mappedButtons (h : l.Defines P) (keepsName : Bool) (pairs : List (String × String)) :
    (l.mappedButtons keepsName pairs).Defines P :=
  h.defineMap (fun pair : String × String => hbutton pair.1 pair.2 keepsName) pairs

theorem mappedSpin (h : l.Defines P) (keepsName : Bool) (name : Option String) (target : String)
    (directions : DirectionNames) : (l.mappedSpin keepsName name target directions).Defines P := by
  cases name with
  | none => exact h
  | some name => exact h.defineOne (hbutton name target keepsName)

end Buttons

section Analogs

variable (hanalog : ∀ name target keepsName, P (.analog name target keepsName))
include hanalog

theorem analogs (h : l.Defines P) (names : List String) : (l.analogs names).Defines P :=
  h.defineMap (fun name => hanalog name name true) names

theorem mappedAnalogs (h : l.Defines P) (keepsName : Bool) (pairs : List (String × String)) :
    (l.mappedAnalogs keepsName pairs).Defines P :=
  h.defineMap (fun pair : String × String => hanalog pair.1 pair.2 keepsName) pairs

variable (hbutton : ∀ name target keepsName, P (.button name target keepsName))
include hbutton

theorem stick (h : l.Defines P) (p : String) (allowSpin : Bool) :
    (l.stick p allowSpin).Defines P := by
  have hdirections := h.analogs hanalog (DirectionNames.withPrefix p).toList
  cases allowSpin with
  | false => exact hdirections
  | true => exact hdirections.buttons hbutton [p ++ "spinl", p ++ "spinr"]

theorem mappedStick (h : l.Defines P) (keepsName : Bool) (names : DirectionNames)
    (spinLeft spinRight : Option String) (p : String) :
    (l.mappedStick keepsName names spinLeft spinRight p).Defines P := by
  have hdirections := h.mappedAnalogs hanalog keepsName
    (names.toList.zip (DirectionNames.withPrefix p).toList)
  exact ((hdirections.withConflicts _).mappedSpin hbutton _ _ _ _).mappedSpin hbutton _ _ _ _

end Analogs

theorem touchscreen (h : l.Defines P) {g : Geometry} (htouch : P (.touch touchscreenName g))
    (hdrag : P (.drag touchscreenName g)) (multitouch allowDrag : Bool) :
    (l.touchscreen g multitouch allowDrag).Defines P := by
  have hchecked : Layout.Defines P
      (if g.width = 0 ∨ g.height = 0 then l.withError (.zeroTouchscreen g.width g.height) else l) := by
    split
    · exact h
    · exact h
  have hscreen := hchecked.defineOne htouch
  cases allowDrag with
  | false => exact hscreen
  | true => exact hscreen.defineOne hdrag

theorem tap (h : l.Defines P) {point : ScreenPoint} (hpoint : P (tapDefinition l.screen point)) :
    (l.tap point).Defines P :=
  h.defineOne hpoint

theorem taps {points : List ScreenPoint} : ∀ {l : Layout}, l.Defines P →
    (∀ point ∈ points, P (tapDefinition l.screen point)) → (l.taps points).Defines P := by
  induction points with
  | nil => exact fun h _ => h
  | cons point later ih =>
    intro l h hpoints
    obtain ⟨hpoint, hlater⟩ := List.forall_mem_cons.mp hpoints
    exact ih (h.tap hpoint) hlater

/-- **A step registers buttons, analog inputs, its screen and its points**, and nothing else. -/
theorem apply (h : l.Defines P)
    (hbutton : ∀ name target keepsName, P (.button name target keepsName))
    (hanalog : ∀ name target keepsName, P (.analog name target keepsName)) {step : Step}
    (hscreen : ∀ g ∈ step.screen?, P (.touch touchscreenName g) ∧ P (.drag touchscreenName g))
    (hpoints : ∀ point ∈ step.points, P (tapDefinition l.screen point)) :
    (l.apply step).Defines P := by
  cases step with
  | lengths | hold | sides | conflicts | lone => exact h
  | buttons names => exact h.buttons hbutton names
  | aliasedButtons pairs => exact h.mappedButtons hbutton true pairs
  | remappedButtons pairs => exact h.mappedButtons hbutton false pairs
  | analogs names => exact h.analogs hanalog names
  | aliasedAnalogs pairs => exact h.mappedAnalogs hanalog true pairs
  | remappedAnalogs pairs => exact h.mappedAnalogs hanalog false pairs
  | dpad p => exact h.buttons hbutton _
  | aliasedDpad => exact h.mappedButtons hbutton true _
  | remappedDpad => exact h.mappedButtons hbutton false _
  | stick p allowSpin => exact h.stick hanalog hbutton p allowSpin
  | aliasedStick => exact h.mappedStick hanalog hbutton true _ _ _ _
  | remappedStick => exact h.mappedStick hanalog hbutton false _ _ _ _
  | touchscreen g multitouch allowDrag =>
    obtain ⟨htouch, hdrag⟩ := hscreen g rfl
    exact h.touchscreen htouch hdrag multitouch allowDrag
  | tap point => exact h.tap (hpoints point (List.mem_singleton_self point))
  | game shortcuts => exact h.taps hpoints

end Defines

/-- **Only built-in definitions are registered.** -/
theorem builtIn_of_mem_ofSteps (steps : List Step) :
    (ofSteps steps).Defines Definition.BuiltIn := by
  induction steps using List.reverseRecOn with
  | nil => exact nofun
  | append_singleton steps step ih =>
    rw [ofSteps_concat]
    exact ih.apply .button .analog (fun g _ => ⟨.touch _ g, .drag _ g⟩)
      fun point _ => .asTouch _ _ _ _ _ (.button point.name point.name true)

/-! ## Settings -/

/-- What the last of the steps that set something sets it to. -/
def lastSet {α : Type} (setting : Step → Option α) (steps : List Step) : Option α :=
  steps.reverse.findSome? setting

/-- The limits as they were set last. -/
def limitsOf (steps : List Step) : Limits where
  setLength := ((lastSet Step.lengths? steps).map Prod.fst).getD 2
  sequenceLength := ((lastSet Step.lengths? steps).map Prod.snd).getD 1
  hold := (lastSet Step.hold? steps).getD true

theorem lastSet_concat {α : Type} (setting : Step → Option α) (steps : List Step) (step : Step) :
    lastSet setting (steps ++ [step]) = (setting step).or (lastSet setting steps) := by
  rw [lastSet, List.reverse_append, List.reverse_singleton, List.findSome?_append, lastSet]
  simp

/-- The parts of a layout that are set, and not added to. -/
def settings (l : Layout) : Limits × Option SidePrefixes × Option Geometry :=
  (l.limits, l.sides, l.screen)

theorem settings_mappedSpin (l : Layout) (keepsName : Bool) (name : Option String)
    (target : String) (directions : DirectionNames) :
    (l.mappedSpin keepsName name target directions).settings = l.settings := by
  cases name <;> rfl

theorem settings_stick (l : Layout) (p : String) (allowSpin : Bool) :
    (l.stick p allowSpin).settings = l.settings := by
  cases allowSpin <;> rfl

theorem settings_mappedStick (l : Layout) (keepsName : Bool) (names : DirectionNames)
    (spinLeft spinRight : Option String) (p : String) :
    (l.mappedStick keepsName names spinLeft spinRight p).settings = l.settings := by
  rw [mappedStick, settings_mappedSpin, settings_mappedSpin]
  rfl

theorem settings_touchscreen (l : Layout) (g : Geometry) (multitouch allowDrag : Bool) :
    (l.touchscreen g multitouch allowDrag).settings = (l.limits, l.sides, some g) := by
  have hchecked : settings (if g.width = 0 ∨ g.height = 0 then
      l.withError (.zeroTouchscreen g.width g.height) else l) = l.settings := by
    split
    · rfl
    · rfl
  obtain ⟨hlimits, hrest⟩ := Prod.mk.inj hchecked
  obtain ⟨hsides, _⟩ := Prod.mk.inj hrest
  rw [touchscreen, ← hlimits, ← hsides]
  cases allowDrag <;> rfl

theorem settings_taps (points : List ScreenPoint) (l : Layout) :
    (l.taps points).settings = l.settings := by
  induction points generalizing l with
  | nil => rfl
  | cons point later ih => exact ih (l.tap point)

/-- A step changes the settings that it sets, and no others. -/
theorem settings_apply (l : Layout) (step : Step) : (l.apply step).settings =
    ({ setLength := (step.lengths?.map Prod.fst).getD l.limits.setLength
       sequenceLength := (step.lengths?.map Prod.snd).getD l.limits.sequenceLength
       hold := step.hold?.getD l.limits.hold }, step.sides?.or l.sides,
      step.screen?.or l.screen) := by
  cases step with
  | stick p allowSpin => exact settings_stick l p allowSpin
  | aliasedStick names spinLeft spinRight p =>
    exact settings_mappedStick l true names spinLeft spinRight p
  | remappedStick names spinLeft spinRight p =>
    exact settings_mappedStick l false names spinLeft spinRight p
  | touchscreen g multitouch allowDrag => exact settings_touchscreen l g multitouch allowDrag
  | game game => exact settings_taps game.points l
  | _ => rfl

/-- **The last step that sets something decides.** -/
theorem settings_ofSteps (steps : List Step) :
    (ofSteps steps).settings =
      (limitsOf steps, lastSet Step.sides? steps, lastSet Step.screen? steps) := by
  induction steps using List.reverseRecOn with
  | nil => rfl
  | append_singleton steps step ih =>
    obtain ⟨hlimits, hrest⟩ := Prod.mk.inj ih
    obtain ⟨hsides, hscreen⟩ := Prod.mk.inj hrest
    rw [ofSteps_concat, settings_apply, hlimits, hsides, hscreen, limitsOf, limitsOf,
      lastSet_concat, lastSet_concat, lastSet_concat, lastSet_concat]
    cases step.lengths? <;> cases step.hold? <;> rfl

theorem limits_ofSteps (steps : List Step) : (ofSteps steps).limits = limitsOf steps :=
  congrArg Prod.fst (settings_ofSteps steps)

theorem sides_ofSteps (steps : List Step) : (ofSteps steps).sides = lastSet Step.sides? steps :=
  congrArg (·.2.1) (settings_ofSteps steps)

end ChatPad.Layout
