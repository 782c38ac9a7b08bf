import ChatPad.Proofs.Layout.Shape
import ChatPad.Proofs.Parser.Caseless

/-!
# A built parser that case does not matter to

Each layer of a parser passes on that case does not matter: the rules do not look at what was typed,
and side letters and separators are the same in lower case.  So a built parser answers two texts alike
that differ in the case of ASCII letters only (`Layout.build_caseless`).
-/

namespace ChatPad

/-- The parser answers a text and its lower case alike, but for what inputs were typed as. -/
def Parser.Caseless (parser : Parser) : Prop :=
  ∀ text : String, (parser text.toLower).value.map InputSequence.untyped =
    (parser text).value.map InputSequence.untyped

/-! ## The layer of rules -/

theorem Rules.caseless_checked {base : Parser} (hbase : base.Caseless) (rules : Rules) :
    (rules.checked base).Caseless := by
  have hchecked (text : String) : (rules.checked base text).value.map InputSequence.untyped =
      ((base text).value.map InputSequence.untyped).filter
        fun sequence => (rules.violation? sequence).isNone := by
    rw [value_checked]
    cases (base text).value with
    | none => rfl
    | some sequence =>
      rw [Option.map_some, Option.filter_some, Option.filter_some, rules.violation?_untyped]
      split <;> rfl
  intro text
  rw [hchecked, hchecked, hbase text]

/-! ## The layer of sides -/

def Remainder.lowered (r : Remainder) : Remainder := { r with text := r.text.toLower }

namespace SidePrefixes

theorem sideOf_toLower (p : SidePrefixes) (c : Char) : p.sideOf c.toLower = p.sideOf c := by
  rw [sideOf, sideOf, Text.sameLetter_toLower, Text.sameLetter_toLower]

theorem isSeparator_toLower (c : Char) : isSeparator c.toLower = isSeparator c :=
  Text.toLower_invariant (by decide) c

theorem dropSeparator_toLower (text : List Char) :
    dropSeparator (text.map Char.toLower) = (dropSeparator text).map Char.toLower := by
  cases text with
  | nil => rfl
  | cons c rest =>
    rw [List.map_cons, dropSeparator, dropSeparator, isSeparator_toLower]
    split <;> rfl

/-- The same letters are taken off the lower case of a text. -/
theorem remaindersAfter_toLower (p : SidePrefixes) (text : List Char) :
    p.remaindersAfter (text.map Char.toLower) =
      (p.remaindersAfter text).map Remainder.lowered := by
  induction text using remaindersAfter.induct p with
  | case1 => simp [remaindersAfter]
  | case2 c rest hside =>
    rw [List.map_cons, remaindersAfter, remaindersAfter, sideOf_toLower, hside]
    rfl
  | case3 c rest side hside ih =>
    rw [List.map_cons, remaindersAfter, remaindersAfter, sideOf_toLower, hside]
    simp only [dropSeparator_toLower, toLower_ofList, ih]
    rfl

theorem remainders_toLower (p : SidePrefixes) (text : String) :
    p.remainders text.toLower = (p.remainders text).map Remainder.lowered := by
  rw [remainders, remainders, toList_toLower, remaindersAfter_toLower]
  cases p.allowDirected <;> rfl

end SidePrefixes

namespace Layout

/-! ## All layers -/

variable {l : Layout} {base : Parser}

theorem remainders_toLower (l : Layout) (text : String) :
    l.remainders text.toLower = (l.remainders text).map Remainder.lowered := by
  unfold remainders
  cases l.sides with
  | none => rfl
  | some p => exact p.remainders_toLower text

theorem untyped_marked (l : Layout) (side : Option Side) (sequence : InputSequence) :
    (l.marked side sequence).untyped = l.marked side sequence.untyped := by
  unfold marked
  cases l.sides with
  | none => rfl
  | some p =>
    -- the marker of a side was not typed
    have hset (set : InputSet) : (set.add (.sideMarker side side.isSome)).untyped =
        set.untyped.add (.sideMarker side side.isSome) := by
      rw [InputSet.add, InputSet.untyped, List.map_append]
      rfl
    simp only [InputSequence.onSide, InputSequence.untyped, InputSequence.mapSets, List.map_map,
      Function.comp_def, hset]

/-- **The layers of a layout pass on that case does not matter.** -/
theorem caseless_layers (hbase : base.Caseless) (l : Layout) : (l.layers base).Caseless := by
  intro text
  rw [value_layers, value_layers, remainders_toLower, List.findSome?_map, List.map_findSome?,
    List.map_findSome?]
  refine congrArg (List.findSome? · _) (funext fun r => ?_)
  have hmarked (value : Option InputSequence) :
      (value.map (l.marked r.side)).map InputSequence.untyped =
        (value.map InputSequence.untyped).map (l.marked r.side) := by
    rw [Option.map_map, Option.map_map]
    exact congrArg (Option.map · value) (funext fun sequence => l.untyped_marked r.side sequence)
  show Option.map _ (Option.map (l.marked r.side) (l.rules.checked base r.text.toLower).value) =
    Option.map _ (Option.map (l.marked r.side) (l.rules.checked base r.text).value)
  rw [hmarked, hmarked, l.rules.caseless_checked hbase]

/-- **Case does not matter.**  Of two texts that differ in the case of ASCII letters only, a built parser
answers both or neither.  The answers differ in the texts that inputs were typed as at most, so they
have the same outcome; and the plain parser finds the same captures in both texts, but for the case of
the words that are cut from them. -/
theorem build_caseless {steps : List Step} {parser : Parser} {log : List Event}
    (hbuild : (ofSteps steps).build = .ok ⟨parser, log⟩) {text text' : String}
    (hcase : text.toLower = text'.toLower) :
    (parser text).value.isSome = (parser text').value.isSome ∧
    (∀ answer answer', (parser text).value = some answer → (parser text').value = some answer' →
      answer.untyped = answer'.untyped ∧ answer.sameOutcome answer' = true) ∧
    ∀ plain, (ofSteps steps).plain = .ok plain →
      (plain.grammar.captures? text.toList).map (List.map Capture.lowered) =
        (plain.grammar.captures? text'.toList).map (List.map Capture.lowered) := by
  have hdefinitions := builtIn_of_mem_ofSteps steps
  obtain ⟨plain, hplain⟩ := exists_plain_of_build hbuild
  obtain rfl := eq_layers_of_build hplain hbuild
  have hplainCaseless : Parser.Caseless plain.parse :=
    PlainParser.value_parse_toLower hdefinitions (plain_eq_ok hplain)
  have hcaseless := caseless_layers hplainCaseless (ofSteps steps)
  have hvalue : ((ofSteps steps).layers plain.parse text).value.map InputSequence.untyped =
      ((ofSteps steps).layers plain.parse text').value.map InputSequence.untyped := by
    rw [← hcaseless text, hcase, hcaseless text']
  refine ⟨?_, ?_, ?_⟩
  · have hsome := congrArg Option.isSome hvalue
    rw [Option.isSome_map, Option.isSome_map] at hsome
    exact hsome
  · intro answer answer' hanswer hanswer'
    rw [hanswer, hanswer'] at hvalue
    have huntyped := Option.some.inj hvalue
    exact ⟨huntyped, InputSequence.sameOutcome_of_untyped_eq huntyped⟩
  · intro found hfound
    obtain ⟨g, hg, rfl⟩ := PlainParser.ofDefinitions_eq_ok_iff.mp (plain_eq_ok hfound)
    rw [← Grammar.captures?_toLower hdefinitions hg, ← Grammar.captures?_toLower hdefinitions hg,
      ← toList_toLower, ← toList_toLower, hcase]

/-- Neither the side letter nor the names are typed as they were registered. -/
theorem build_caseless_side :
    let steps : List Step := [.remappedButtons [("Up", "north")], .buttons ["a"], .sides {}]
    ∃ parser log answer answer', (ofSteps steps).build = .ok ⟨parser, log⟩ ∧
      "R:uP+A".toLower = "r:UP+a".toLower ∧ (parser "R:uP+A").value = some answer ∧
      (parser "r:UP+a").value = some answer' ∧ answer ≠ answer' ∧
      answer.untyped = answer'.untyped ∧ answer.sameOutcome answer' = true := by
  intro steps
  let north (typed : String) : Input := ⟨"north", "north", typed, .button⟩
  let a (typed : String) : Input := ⟨"a", "a", typed, .button⟩
  let joined (first second : String) : ReadSet :=
    ⟨⟨[⟨1, second.toList⟩], false, none⟩, ⟨0, first.toList⟩⟩
  obtain ⟨plain, hplain, hnone, hnone', hread, hread'⟩ : ∃ plain, (ofSteps steps).plain = .ok plain ∧
      (plain.parse "R:uP+A").value = none ∧ (plain.parse "r:UP+a").value = none ∧
      (plain.parse "uP+A").value = some ⟨[⟨[north "uP", a "A"]⟩]⟩ ∧
      (plain.parse "UP+a").value = some ⟨[⟨[north "UP", a "a"]⟩]⟩ := by
    refine ⟨_, rfl, by decide +kernel, by decide +kernel, ?_, ?_⟩
    · exact PlainParser.value_parse_of_captures rfl [joined "uP" "A"] (by decide +kernel) rfl
    · exact PlainParser.value_parse_of_captures rfl [joined "UP" "a"] (by decide +kernel) rfl
  obtain ⟨parser, log, hbuild, hanswers⟩ := (build_layers steps).2 plain hplain
  have hanswer := ((hanswers "R:uP+A").2 _).mpr ⟨[⟨"R:uP+A", none⟩], ⟨"uP+A", some .right⟩, [],
    by decide +kernel, List.forall_mem_singleton.mpr (Rules.not_admits_of_value_eq_none hnone), _,
    ⟨hread, by decide⟩, rfl⟩
  have hanswer' := ((hanswers "r:UP+a").2 _).mpr ⟨[⟨"r:UP+a", none⟩], ⟨"UP+a", some .right⟩, [],
    by decide +kernel, List.forall_mem_singleton.mpr (Rules.not_admits_of_value_eq_none hnone'), _,
    ⟨hread', by decide⟩, rfl⟩
  have hcase : "R:uP+A".toLower = "r:UP+a".toLower := by
    rw [← String.toList_inj, toList_toLower, toList_toLower]
    decide
  obtain ⟨huntyped, hsame⟩ := (build_caseless hbuild hcase).2.1 _ _ hanswer hanswer'
  exact ⟨parser, log, _, _, hbuild, hcase, hanswer, hanswer', by decide, huntyped, hsame⟩

end Layout

end ChatPad
