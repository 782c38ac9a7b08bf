import ChatPad.Proofs.Layout.History
import ChatPad.Proofs.Layout.Layers
import ChatPad.Proofs.Rules.Allowed

/-!
# Directions are never pressed against each other

The conflicts of a layout are those that its steps add, one step after the other, and no step takes
any away.  So a group of directions keeps its conflicts whatever else is registered, before or after
it:

* `Layout.conflicts_apply`, `Layout.conflicts_ofSteps`: the conflicts of one step, and of all steps;
* `Layout.not_presses_of_conflict`: a built parser answers no set with both buttons of a conflict;
* `Layout.build_directions`: so no answer presses opposite directions of a group together, nor a spin
  of the group and one of its directions.

Conflicts are about buttons, and not about the names that press them: an alias changes nothing.
-/

namespace ChatPad

/-- The set has an input that presses the button. -/
def InputSet.Presses (set : InputSet) (button : String) : Prop :=
  ∃ i ∈ set.inputs, i.button = button

namespace Layout

/-! ## The conflicts of a history -/

namespace Step

/-- The prefix of the buttons that a step registers as directions, if it registers a group. -/
def directions? : Step → Option String
  | .dpad p => some p
  | .aliasedDpad _ p => some p
  | .remappedDpad _ p => some p
  | .stick p _ => some p
  | .aliasedStick _ _ _ p => some p
  | .remappedStick _ _ _ p => some p
  | _ => none

/-- The buttons that a step registers as spins, given which of the two have a name. -/
def mappedSpins (p : String) (spinLeft spinRight : Option String) : List String :=
  (spinLeft.map fun _ => p ++ "spinl").toList ++ (spinRight.map fun _ => p ++ "spinr").toList

/-- The buttons that a step registers as spins. -/
def spins : Step → List String
  | .stick p allowSpin => if allowSpin then [p ++ "spinl", p ++ "spinr"] else []
  | .aliasedStick _ spinLeft spinRight p => mappedSpins p spinLeft spinRight
  | .remappedStick _ spinLeft spinRight p => mappedSpins p spinLeft spinRight
  | _ => []

/-- The conflicts of a group of directions and its spins. -/
def groupConflicts (p : String) (spins : List String) : List (String × String) :=
  (DirectionNames.withPrefix p).conflicts ++
    spins.flatMap (DirectionNames.withPrefix p).spinConflicts

/-- The conflicts that a step adds. -/
def conflictsOf (step : Step) : List (String × String) :=
  match step.directions?, step with
  | some p, _ => groupConflicts p step.spins
  | none, .conflicts pairs => pairs
  | none, _ => []

end Step

variable {l : Layout}

theorem conflicts_stick (l : Layout) (p : String) (allowSpin : Bool) :
    (l.stick p allowSpin).rules.conflicts =
      l.rules.conflicts ++ Step.groupConflicts p (Step.spins (.stick p allowSpin)) := by
  cases allowSpin with
  | false =>
    show l.rules.conflicts ++ (DirectionNames.withPrefix p).conflicts = _
    rw [Step.groupConflicts, Step.spins, if_neg Bool.false_ne_true, List.flatMap_nil,
      List.append_nil]
  | true =>
    show l.rules.conflicts ++ (DirectionNames.withPrefix p).conflicts ++ _ ++ _ = _
    rw [Step.groupConflicts, Step.spins, if_pos rfl]
    simp only [List.flatMap_cons, List.flatMap_nil, List.append_nil, List.append_assoc]

/-- A spin that has no name adds nothing. -/
theorem conflicts_mappedSpin (l : Layout) (keepsName : Bool) (name : Option String)
    (target : String) (directions : DirectionNames) :
    (l.mappedSpin keepsName name target directions).rules.conflicts =
      l.rules.conflicts ++ (name.map fun _ => target).toList.flatMap directions.spinConflicts := by
  cases name with
  | none => exact (List.append_nil _).symm
  | some name => simp only [mappedSpin, withConflicts, define, Option.map_some, Option.toList_some,
      List.flatMap_singleton]

theorem conflicts_mappedStick (l : Layout) (keepsName : Bool) (names : DirectionNames)
    (spinLeft spinRight : Option String) (p : String) :
    (l.mappedStick keepsName names spinLeft spinRight p).rules.conflicts =
      l.rules.conflicts ++ Step.groupConflicts p (Step.mappedSpins p spinLeft spinRight) := by
  rw [mappedStick, conflicts_mappedSpin, conflicts_mappedSpin, Step.groupConflicts,
    Step.mappedSpins, List.flatMap_append, ← List.append_assoc, ← List.append_assoc]
  rfl

theorem conflicts_touchscreen (l : Layout) (g : Geometry) (multitouch allowDrag : Bool) :
    (l.touchscreen g multitouch allowDrag).rules.conflicts = l.rules.conflicts := by
  have hchecked : (rules (if g.width = 0 ∨ g.height = 0 then
      l.withError (.zeroTouchscreen g.width g.height) else l)).conflicts = l.rules.conflicts := by
    split
    · rfl
    · rfl
  cases allowDrag with
  | false => exact hchecked
  | true => exact hchecked

theorem conflicts_taps (points : List ScreenPoint) (l : Layout) :
    (l.taps points).rules.conflicts = l.rules.conflicts := by
  induction points generalizing l with
  | nil => rfl
  | cons point later ih => exact ih (l.tap point)

/-- **A step keeps the conflicts there are, and adds its own.** -/
theorem conflicts_apply (l : Layout) (step : Step) :
    (l.apply step).rules.conflicts = l.rules.conflicts ++ step.conflictsOf := by
  cases step with
  | dpad p => exact congrArg (l.rules.conflicts ++ ·) (List.append_nil _).symm
  | aliasedDpad names p => exact congrArg (l.rules.conflicts ++ ·) (List.append_nil _).symm
  | remappedDpad names p => exact congrArg (l.rules.conflicts ++ ·) (List.append_nil _).symm
  | stick p allowSpin => exact conflicts_stick l p allowSpin
  | aliasedStick names spinLeft spinRight p =>
    exact conflicts_mappedStick l true names spinLeft spinRight p
  | remappedStick names spinLeft spinRight p =>
    exact conflicts_mappedStick l false names spinLeft spinRight p
  | touchscreen g multitouch allowDrag =>
    exact (conflicts_touchscreen l g multitouch allowDrag).trans (List.append_nil _).symm
  | game game => exact (conflicts_taps game.points l).trans (List.append_nil _).symm
  | conflicts pairs => rfl
  | _ => exact (List.append_nil _).symm

/-- **The conflicts of a layout are those of its steps.** -/
theorem conflicts_ofSteps (steps : List Step) :
    (ofSteps steps).rules.conflicts = steps.flatMap Step.conflictsOf := by
  induction steps using List.reverseRecOn with
  | nil => rfl
  | append_singleton steps step ih =>
    rw [ofSteps_concat, conflicts_apply, ih, List.flatMap_append, List.flatMap_singleton]

/-! ## Buttons of a conflict -/

/-- **No answer presses both buttons of a conflict**, whatever names they are pressed by.  The button
of side markers is set aside: they are added after the rules are checked. -/
theorem not_presses_of_conflict {steps : List Step} {parser : Parser} {log : List Event}
    (hbuild : (ofSteps steps).build = .ok ⟨parser, log⟩) {text : String} {answer : InputSequence}
    (hanswer : (parser text).value = some answer) {set : InputSet} (hset : set ∈ answer.sets)
    {a b : String} (hconflict : (a, b) ∈ steps.flatMap Step.conflictsOf) (hne : a ≠ b)
    (ha : a ≠ "side") (hb : b ≠ "side") : ¬ (set.Presses a ∧ set.Presses b) := by
  obtain ⟨plain, hplain⟩ := exists_plain_of_build hbuild
  obtain rfl := eq_layers_of_build hplain hbuild
  obtain ⟨_, r, _, _, _, sequence, hadmits, rfl⟩ := value_layers_eq_some_iff.mp hanswer
  obtain ⟨source, hsource, hinputs⟩ := exists_mem_of_mem_marked hset
  have hallowed := Rules.violation?_eq_none_iff.mp hadmits.keeps source hsource
  have hpressed {button : String} (hbutton : button ≠ "side") (hpresses : set.Presses button) :
      source.Presses button := by
    obtain ⟨i, hi, rfl⟩ := hpresses
    rcases hinputs i hi with hi | rfl
    · exact ⟨i, hi, rfl⟩
    · exact absurd rfl hbutton
  rintro ⟨hpressesA, hpressesB⟩
  obtain ⟨i, hi, rfl⟩ := hpressed ha hpressesA
  obtain ⟨j, hj, rfl⟩ := hpressed hb hpressesB
  rw [← conflicts_ofSteps] at hconflict
  exact (hallowed.peaceful i hi j hj hne).1 hconflict

/-! ## Directions and spins -/

/-- A word with a last letter other than `e` ends no name of side markers. -/
theorem append_ne_side {p word : String} (hword : word.toList.getLast?.any (· != 'e') = true) :
    p ++ word ≠ "side" := by
  intro h
  obtain ⟨c, hc, hne⟩ := (Option.any_eq_true _ _).mp hword
  have hlast : (p ++ word).toList.getLast? = some 'e' := by
    rw [h]
    rfl
  rw [String.toList_append, List.getLast?_append, hc] at hlast
  obtain rfl := Option.some.inj hlast
  exact bne_iff_ne.mp hne rfl

theorem append_ne_append {p a b : String} (h : a ≠ b) : p ++ a ≠ p ++ b := by
  intro happend
  have hlists := congrArg String.toList happend
  rw [String.toList_append, String.toList_append] at hlists
  exact h (String.toList_inj.mp (List.append_cancel_left hlists))

/-- The words for the four directions. -/
def directionWords : List String := ["up", "down", "left", "right"]

/-- The words for the two spins. -/
def spinWords : List String := ["spinl", "spinr"]

/-- No button of a group is that of side markers. -/
theorem append_ne_side_of_mem {p word : String} (h : word ∈ directionWords ++ spinWords) :
    p ++ word ≠ "side" := by
  have hlast : ∀ word ∈ directionWords ++ spinWords, word.toList.getLast?.any (· != 'e') = true := by
    decide
  exact append_ne_side (hlast word h)

theorem exists_word_of_mem_spins {step : Step} {p spin : String}
    (hgroup : step.directions? = some p) (hspin : spin ∈ step.spins) :
    ∃ word ∈ spinWords, spin = p ++ word := by
  have hmapped {q : String} {spinLeft spinRight : Option String}
      (h : spin ∈ Step.mappedSpins q spinLeft spinRight) :
      ∃ word ∈ spinWords, spin = q ++ word := by
    rw [Step.mappedSpins, List.mem_append] at h
    rcases h with h | h
    · obtain ⟨_, _, rfl⟩ := Option.map_eq_some_iff.mp (Option.mem_toList.mp h)
      exact ⟨"spinl", by decide, rfl⟩
    · obtain ⟨_, _, rfl⟩ := Option.map_eq_some_iff.mp (Option.mem_toList.mp h)
      exact ⟨"spinr", by decide, rfl⟩
  cases step with
  | stick q allowSpin =>
    obtain rfl := Option.some.inj hgroup
    cases allowSpin with
    | false => cases hspin
    | true =>
      simp only [Step.spins, if_true, List.mem_cons, List.not_mem_nil, or_false] at hspin
      rcases hspin with rfl | rfl
      · exact ⟨"spinl", by decide, rfl⟩
      · exact ⟨"spinr", by decide, rfl⟩
  | aliasedStick names spinLeft spinRight q =>
    obtain rfl := Option.some.inj hgroup
    exact hmapped hspin
  | remappedStick names spinLeft spinRight q =>
    obtain rfl := Option.some.inj hgroup
    exact hmapped hspin
  | _ => cases hspin

/-- The conflicts of a group are among those of its history. -/
theorem mem_conflicts_of_group {steps : List Step} {step : Step} (hstep : step ∈ steps) {p : String}
    (hgroup : step.directions? = some p) {pair : String × String}
    (hpair : pair ∈ Step.groupConflicts p step.spins) : pair ∈ steps.flatMap Step.conflictsOf := by
  have hadded : step.conflictsOf = Step.groupConflicts p step.spins := by
    simp only [Step.conflictsOf, hgroup]
  exact List.mem_flatMap.mpr ⟨step, hstep, hadded ▸ hpair⟩

/-- **No answer presses a group of directions against itself.**  Whatever steps come before and after
the one that registers the group, no set of an answer has both buttons of opposite directions, and if
the group has a spin, no set has that spin and a direction. -/
theorem build_directions {steps : List Step} {step : Step} (hstep : step ∈ steps) {p : String}
    (hgroup : step.directions? = some p) {parser : Parser} {log : List Event}
    (hbuild : (ofSteps steps).build = .ok ⟨parser, log⟩) {text : String} {answer : InputSequence}
    (hanswer : (parser text).value = some answer) : ∀ set ∈ answer.sets,
      ¬ (set.Presses (p ++ "up") ∧ set.Presses (p ++ "down")) ∧
      ¬ (set.Presses (p ++ "left") ∧ set.Presses (p ++ "right")) ∧
      ∀ spin ∈ step.spins, ∀ word ∈ directionWords,
        ¬ (set.Presses spin ∧ set.Presses (p ++ word)) := by
  intro set hset
  have hdirection {word : String} (hword : word ∈ directionWords) : p ++ word ≠ "side" :=
    append_ne_side_of_mem (List.mem_append_left _ hword)
  have hopposite {a b : String} (ha : a ∈ directionWords) (hb : b ∈ directionWords) (hne : a ≠ b)
      (hpair : (p ++ a, p ++ b) ∈ (DirectionNames.withPrefix p).conflicts) :
      ¬ (set.Presses (p ++ a) ∧ set.Presses (p ++ b)) :=
    not_presses_of_conflict hbuild hanswer hset
      (mem_conflicts_of_group hstep hgroup (List.mem_append_left _ hpair))
      (append_ne_append hne) (hdirection ha) (hdirection hb)
  refine ⟨?_, ?_, ?_⟩
  · exact hopposite (by decide) (by decide) (by decide) List.mem_cons_self
  · exact hopposite (by decide) (by decide) (by decide) (List.mem_cons_of_mem _ List.mem_cons_self)
  · intro spin hspin word hword
    obtain ⟨spinWord, hspinWord, rfl⟩ := exists_word_of_mem_spins hgroup hspin
    have hpair : (p ++ spinWord, p ++ word) ∈
        (DirectionNames.withPrefix p).spinConflicts (p ++ spinWord) :=
      List.mem_map_of_mem (List.mem_map_of_mem (f := (p ++ ·)) hword)
    have hne : ∀ a ∈ spinWords, ∀ b ∈ directionWords, a ≠ b := by decide
    exact not_presses_of_conflict hbuild hanswer hset
      (mem_conflicts_of_group hstep hgroup
        (List.mem_append_right _ (List.mem_flatMap.mpr ⟨_, hspin, hpair⟩)))
      (append_ne_append (hne spinWord hspinWord word hword))
      (append_ne_side_of_mem (List.mem_append_right _ hspinWord)) (hdirection hword)

/-- A D-pad and a stick that stand for the same directions under different names.  `n+w` is answered on
the right, and the conflicts of the stick hold for whatever is answered. -/
theorem build_directions_shared :
    let group : Step := .aliasedStick ⟨"i", "k", "j", "o"⟩ none (some "turn") "l"
    let steps : List Step := [.aliasedDpad ⟨"n", "s", "w", "e"⟩ "l", group, .lone [], .sides {}]
    ∃ parser log answer, (ofSteps steps).build = .ok ⟨parser, log⟩ ∧
      (parser "rn+w").value = some answer ∧ group ∈ steps ∧ group.directions? = some "l" ∧
      group.spins = ["lspinr"] ∧ ∀ set ∈ answer.sets,
        ¬ (set.Presses "lup" ∧ set.Presses "ldown") ∧
        ¬ (set.Presses "lspinr" ∧ set.Presses "lleft") := by
  intro group steps
  let north : Input := ⟨"n", "lup", "n", .button⟩
  let west : Input := ⟨"w", "lleft", "w", .button⟩
  obtain ⟨plain, hplain, hread⟩ : ∃ plain, (ofSteps steps).plain = .ok plain ∧
      (plain.parse "n+w").value = some ⟨[⟨[north, west]⟩]⟩ :=
    ⟨_, rfl, PlainParser.value_parse_of_captures rfl
      [⟨⟨[⟨2, "w".toList⟩], false, none⟩, ⟨0, "n".toList⟩⟩] (by decide +kernel) rfl⟩
  obtain ⟨parser, log, hbuild, hanswers⟩ := (build_layers steps).2 plain hplain
  have hanswered : (parser "rn+w").value.isSome = true :=
    (hanswers "rn+w").1.mpr ⟨⟨"n+w", some .right⟩, by decide +kernel, _, hread, by decide⟩
  obtain ⟨answer, hanswer⟩ := Option.isSome_iff_exists.mp hanswered
  have hgroup : group ∈ steps := by simp [steps]
  refine ⟨parser, log, answer, hbuild, hanswer, hgroup, rfl, rfl, fun set hset => ?_⟩
  obtain ⟨hopposite, _, hspins⟩ := build_directions hgroup rfl hbuild hanswer set hset
  exact ⟨hopposite, hspins "lspinr" (by decide) "left" (by decide)⟩

end Layout

end ChatPad
