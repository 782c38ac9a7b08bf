import ChatPad.Proofs.Layout.History
import Mathlib.Algebra.GroupWithZero.Nat

/-!
# The mistake and the number of definitions of a layout

A step can make a mistake, which is kept, and it can register definitions.  What a step does to these
two is one lemma, `Layout.progress_apply`, whatever the step is.  By induction on the history,
`Layout.progress_ofSteps`: the mistake of a layout is the first one that a step made, and the numbers of
definitions that the steps registered add up.
-/

namespace ChatPad.Layout

namespace Step

/-- The mistake that a step makes. -/
def mistake? : Step → Option SetupError
  | .touchscreen g _ _ =>
    if g.width = 0 ∨ g.height = 0 then some (.zeroTouchscreen g.width g.height) else none
  | _ => none

/-- How many definitions a step registers. -/
def registered : Step → Nat
  | .buttons names | .analogs names => names.length
  | .aliasedButtons pairs | .remappedButtons pairs => pairs.length
  | .aliasedAnalogs pairs | .remappedAnalogs pairs => pairs.length
  | .dpad _ | .aliasedDpad _ _ | .remappedDpad _ _ => 4
  | .stick _ allowSpin => if allowSpin then 6 else 4
  | .aliasedStick _ spinLeft spinRight _ | .remappedStick _ spinLeft spinRight _ =>
    4 + spinLeft.toList.length + spinRight.toList.length
  | .touchscreen _ _ allowDrag => if allowDrag then 2 else 1
  | .tap _ => 1
  | .game shortcuts => shortcuts.points.length
  | .lengths _ _ | .hold _ | .sides _ | .conflicts _ | .lone _ => 0

end Step

/-- The parts of a layout that are only added to: the mistake, and the number of definitions. -/
def progress (l : Layout) : Option SetupError × Nat := (l.error, l.definitions.length)

variable (l : Layout)

theorem progress_define (definitions : List Definition) :
    (l.define definitions).progress = (l.error, l.definitions.length + definitions.length) := by
  rw [progress, define, List.length_append]

theorem progress_defineMap {α : Type} (f : α → Definition) (as : List α) :
    (l.define (as.map f)).progress = (l.error, l.definitions.length + as.length) := by
  rw [progress_define, List.length_map]

theorem progress_stick (p : String) (allowSpin : Bool) : (l.stick p allowSpin).progress =
    (l.error, l.definitions.length + if allowSpin then 6 else 4) := by
  have hdirections := (l.analogs (DirectionNames.withPrefix p).toList).progress_define
  cases allowSpin with
  | false => exact l.progress_define _
  | true =>
    refine (hdirections _).trans ?_
    rw [analogs, define, List.length_append, Nat.add_assoc]
    rfl

theorem progress_mappedSpin (keepsName : Bool) (name : Option String) (target : String)
    (directions : DirectionNames) : (l.mappedSpin keepsName name target directions).progress =
      (l.error, l.definitions.length + name.toList.length) := by
  cases name with
  | none => rfl
  | some name => exact l.progress_define [.button name target keepsName]

theorem progress_mappedStick (keepsName : Bool) (names : DirectionNames)
    (spinLeft spinRight : Option String) (p : String) :
    (l.mappedStick keepsName names spinLeft spinRight p).progress =
      (l.error, l.definitions.length + (4 + spinLeft.toList.length + spinRight.toList.length)) := by
  let targets := DirectionNames.withPrefix p
  let directions := (l.mappedAnalogs keepsName (names.toList.zip targets.toList)).withConflicts
    targets.conflicts
  have hdirections : directions.progress = (l.error, l.definitions.length + 4) :=
    l.progress_defineMap _ (names.toList.zip targets.toList)
  obtain ⟨herror, hlength⟩ := Prod.mk.inj hdirections
  obtain ⟨herrorLeft, hlengthLeft⟩ := Prod.mk.inj
    (directions.progress_mappedSpin keepsName spinLeft (p ++ "spinl") targets)
  show ((directions.mappedSpin keepsName spinLeft (p ++ "spinl") targets).mappedSpin keepsName
    spinRight (p ++ "spinr") targets).progress = _
  rw [progress_mappedSpin, herrorLeft, hlengthLeft, herror, hlength, Nat.add_assoc, Nat.add_assoc,
    Nat.add_assoc]

theorem progress_touchscreen (g : Geometry) (multitouch allowDrag : Bool) :
    (l.touchscreen g multitouch allowDrag).progress =
      (l.error.or (Step.touchscreen g multitouch allowDrag).mistake?,
        l.definitions.length + if allowDrag then 2 else 1) := by
  rw [Step.mistake?]
  by_cases hzero : g.width = 0 ∨ g.height = 0
  · cases allowDrag <;> simp [touchscreen, progress, define, withError, hzero]
  · cases allowDrag <;> simp [touchscreen, progress, define, hzero]

theorem progress_taps (points : List ScreenPoint) (l : Layout) :
    (l.taps points).progress = (l.error, l.definitions.length + points.length) := by
  induction points generalizing l with
  | nil => rfl
  | cons point later ih =>
    obtain ⟨herror, hlength⟩ := Prod.mk.inj (l.progress_define [tapDefinition l.screen point])
    refine (ih (l.tap point)).trans (Prod.ext herror ?_)
    refine (congrArg (· + later.length) hlength).trans ?_
    rw [List.length_singleton, Nat.add_assoc, Nat.add_comm 1, List.length_cons]

/-- **A step keeps the mistake and the definitions that there are**, and adds its own. -/
theorem progress_apply (step : Step) : (l.apply step).progress =
    (l.error.or step.mistake?, l.definitions.length + step.registered) := by
  have hkept (n : Nat) : (l.error, n) = (l.error.or none, n) := by rw [Option.or_none]
  cases step with
  | lengths | hold | sides | conflicts | lone => exact hkept _
  | buttons names | analogs names => exact (l.progress_defineMap _ names).trans (hkept _)
  | aliasedButtons pairs | remappedButtons pairs | aliasedAnalogs pairs | remappedAnalogs pairs =>
    exact (l.progress_defineMap _ pairs).trans (hkept _)
  | dpad | aliasedDpad | remappedDpad | tap => exact (l.progress_define _).trans (hkept _)
  | stick p allowSpin => exact (l.progress_stick p allowSpin).trans (hkept _)
  | aliasedStick | remappedStick => exact (l.progress_mappedStick _ _ _ _ _).trans (hkept _)
  | touchscreen g multitouch allowDrag => exact l.progress_touchscreen g multitouch allowDrag
  | game shortcuts => exact (progress_taps shortcuts.points l).trans (hkept _)

/-- **The first mistake is kept, and the definitions add up.** -/
theorem progress_ofSteps (steps : List Step) : (ofSteps steps).progress =
    (steps.findSome? Step.mistake?, (steps.map Step.registered).sum) := by
  induction steps using List.reverseRecOn with
  | nil => rfl
  | append_singleton steps step ih =>
    obtain ⟨herror, hlength⟩ := Prod.mk.inj ih
    rw [ofSteps_concat, progress_apply, herror, hlength, List.findSome?_append,
      List.findSome?_singleton, List.map_append, List.sum_append, List.map_singleton,
      List.sum_singleton]

theorem error_ofSteps (steps : List Step) :
    (ofSteps steps).error = steps.findSome? Step.mistake? :=
  congrArg Prod.fst (progress_ofSteps steps)

/-- A layout is without definitions if none of its steps registers any. -/
theorem definitions_ofSteps_eq_nil_iff {steps : List Step} :
    (ofSteps steps).definitions = [] ↔ ∀ step ∈ steps, step.registered = 0 := by
  have hlength : (ofSteps steps).definitions.length = (steps.map Step.registered).sum :=
    congrArg Prod.snd (progress_ofSteps steps)
  rw [← List.length_eq_zero_iff, hlength, List.sum_eq_zero_iff_forall_eq_nat, List.forall_mem_map]

end ChatPad.Layout
