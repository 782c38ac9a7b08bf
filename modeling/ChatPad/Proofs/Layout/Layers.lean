import ChatPad.Layout
import ChatPad.Proofs.Parser.Plain
import ChatPad.Proofs.Sides.Remainders

/-!
# The layers of a parser

A layout builds its parser in layers over the plain one.  Each layer has one lemma that says what it
answers, whatever the parser below it is:

* `Rules.value_checked_eq_some_iff`: the sequences of the layer of rules are those that are admitted;
* `SidePrefixes.value_marked`: the layer of sides answers with the first remainder that the parser
  below it answers;
* `Layout.value_layers`: both together.

From these follow what a built parser answers (`Layout.build_layers`), and what becomes of a text
that the plain parser reads as a whole (`Layout.build_of_whole_text`).
-/

namespace ChatPad

/-- What follows goes on with the value alone. -/
theorem Logged.value_bind {ε α β : Type} (a : Logged ε α) (f : α → Logged ε β) :
    (a >>= f).value = (f a.value).value :=
  rfl

/-! ## The layer of rules -/

/-- The sequence is what the parser makes of a text, and it keeps the rules. -/
structure Rules.Admits (rules : Rules) (base : Parser) (text : String) (sequence : InputSequence) :
    Prop where
  parsed : (base text).value = some sequence
  keeps : rules.violation? sequence = none

namespace Rules

variable {rules : Rules} {base : Parser} {text : String} {sequence : InputSequence}

theorem value_checked (rules : Rules) (base : Parser) (text : String) :
    (rules.checked base text).value =
      (base text).value.filter fun sequence => (rules.violation? sequence).isNone := by
  rw [checked, Logged.value_bind]
  cases (base text).value with
  | none => rfl
  | some sequence =>
    simp only [Option.filter_some]
    cases rules.violation? sequence <;> rfl

/-- **Checking rules keeps the sequences that are admitted.** -/
theorem value_checked_eq_some_iff :
    (rules.checked base text).value = some sequence ↔ rules.Admits base text sequence := by
  rw [value_checked, Option.filter_eq_some_iff, Option.isNone_iff_eq_none]
  exact ⟨fun h => ⟨h.1, h.2⟩, fun h => ⟨h.parsed, h.keeps⟩⟩

theorem value_checked_eq_none_iff :
    (rules.checked base text).value = none ↔ ∀ sequence, ¬ rules.Admits base text sequence := by
  simp only [Option.eq_none_iff_forall_ne_some, Ne, value_checked_eq_some_iff]

/-- Nothing is admitted of a text that is not read. -/
theorem not_admits_of_value_eq_none (h : (base text).value = none) (sequence : InputSequence) :
    ¬ rules.Admits base text sequence :=
  fun hadmits => nomatch h.symm.trans hadmits.parsed

/-- Nothing is admitted of a text that is read and breaks a rule. -/
theorem not_admits_of_breaks (hread : (base text).value = some sequence)
    (hbreaks : rules.violation? sequence ≠ none) (other : InputSequence) :
    ¬ rules.Admits base text other := by
  intro hadmits
  obtain rfl := Option.some.inj (hread.symm.trans hadmits.parsed)
  exact hbreaks hadmits.keeps

/-- The first answer among remainders is that of the first one that is admitted. -/
theorem findSome?_checked_eq_some_iff {remainders : List Remainder}
    {mark : Remainder → InputSequence → InputSequence} {answer : InputSequence} :
    (remainders.findSome? fun r => (rules.checked base r.text).value.map (mark r)) = some answer ↔
      ∃ before r after, remainders = before ++ r :: after ∧
        (∀ tried ∈ before, ∀ s, ¬ rules.Admits base tried.text s) ∧
        ∃ sequence, rules.Admits base r.text sequence ∧ answer = mark r sequence := by
  rw [List.findSome?_eq_some_iff]
  simp only [Option.map_eq_some_iff, Option.map_eq_none_iff, value_checked_eq_some_iff,
    value_checked_eq_none_iff]
  constructor
  · rintro ⟨before, r, after, hremainders, ⟨sequence, hadmits, hanswer⟩, hbefore⟩
    exact ⟨before, r, after, hremainders, hbefore, sequence, hadmits, hanswer.symm⟩
  · rintro ⟨before, r, after, hremainders, hbefore, sequence, hadmits, hanswer⟩
    exact ⟨before, r, after, hremainders, ⟨sequence, hadmits, hanswer.symm⟩, hbefore⟩

end Rules

/-! ## The layer of sides -/

/-- The sequence with the marker of a side in every set. -/
def InputSequence.onSide (side : Option Side) (sequence : InputSequence) : InputSequence :=
  sequence.mapSets fun set => set.add (.sideMarker side side.isSome)

/-- **The layer of sides answers with the first remainder that is answered below it.** -/
theorem SidePrefixes.value_marked (p : SidePrefixes) (base : Parser) (text : String) :
    (p.marked base text).value =
      (p.remainders text).findSome? fun r => (base r.text).value.map (.onSide r.side) := by
  have hmarked : (p.marked base text).value = (p.disambiguate base text).value.map
      fun answer => answer.1.onSide answer.2 := by
    rw [marked, Logged.value_bind]
    cases (p.disambiguate base text).value with
    | none => rfl
    | some answer => rfl
  rw [hmarked, disambiguate_eq_firstRecognized, Logged.value_firstRecognized, List.map_findSome?]
  congr 1
  funext r
  simp only [Function.comp_apply, Option.map_map]
  rfl

namespace Layout

/-! ## Both layers -/

/-- What the layers of a layout try of a text, in order. -/
def remainders (l : Layout) (text : String) : List Remainder :=
  match l.sides with
  | none => [⟨text, none⟩]
  | some p => p.remainders text

/-- A sequence as the layers of a layout answer it: with sides, every set is marked. -/
def marked (l : Layout) (side : Option Side) (sequence : InputSequence) : InputSequence :=
  match l.sides with
  | none => sequence
  | some _ => sequence.onSide side

variable {l : Layout} {base : Parser} {text : String} {answer : InputSequence}

/-- **The layers answer with the first remainder that is admitted.** -/
theorem value_layers (l : Layout) (base : Parser) (text : String) :
    (l.layers base text).value = (l.remainders text).findSome? fun r =>
      (l.rules.checked base r.text).value.map (l.marked r.side) := by
  unfold layers remainders marked
  cases l.sides with
  | none => simp
  | some p => exact p.value_marked _ _

theorem value_layers_eq_some_iff : (l.layers base text).value = some answer ↔
    ∃ before r after, l.remainders text = before ++ r :: after ∧
      (∀ tried ∈ before, ∀ s, ¬ l.rules.Admits base tried.text s) ∧
      ∃ sequence, l.rules.Admits base r.text sequence ∧ answer = l.marked r.side sequence := by
  rw [value_layers]
  exact Rules.findSome?_checked_eq_some_iff

theorem value_layers_isSome_iff : (l.layers base text).value.isSome = true ↔
    ∃ r ∈ l.remainders text, ∃ sequence, l.rules.Admits base r.text sequence := by
  rw [value_layers, List.findSome?_isSome_iff]
  simp only [Option.isSome_map, Option.isSome_iff_exists, Rules.value_checked_eq_some_iff]

/-- The marker of a side is all that an answer adds to what the plain parser has read. -/
theorem exists_mem_of_mem_marked {side : Option Side} {sequence : InputSequence} {set : InputSet}
    (h : set ∈ (l.marked side sequence).sets) : ∃ source ∈ sequence.sets, ∀ i ∈ set.inputs,
      i ∈ source.inputs ∨ i = .sideMarker side side.isSome := by
  rw [marked] at h
  cases hsides : l.sides with
  | none =>
    rw [hsides] at h
    exact ⟨set, h, fun i hi => .inl hi⟩
  | some p =>
    rw [hsides] at h
    obtain ⟨source, hsource, rfl⟩ := List.mem_map.mp h
    refine ⟨source, hsource, fun i hi => ?_⟩
    rcases List.mem_append.mp hi with hi | hi
    · exact .inl hi
    · exact .inr (List.mem_singleton.mp hi)

/-! ## Built parsers -/

/-- Building fails as the plain parser does, and else puts the layers over it. -/
theorem build_eq (l : Layout) :
    l.build = l.plain.map fun plain => ⟨l.layers plain.parse, [plain.compiled]⟩ := by
  rw [build]
  cases l.plain <;> rfl

theorem exists_plain_of_build {parser : Parser} {log : List Event}
    (hbuild : l.build = .ok ⟨parser, log⟩) : ∃ plain, l.plain = .ok plain := by
  rw [build_eq] at hbuild
  cases hplain : l.plain with
  | error error =>
    rw [hplain] at hbuild
    cases hbuild
  | ok plain => exact ⟨plain, rfl⟩

theorem eq_layers_of_build {plain : PlainParser} {parser : Parser} {log : List Event}
    (hplain : l.plain = .ok plain) (hbuild : l.build = .ok ⟨parser, log⟩) :
    parser = l.layers plain.parse := by
  rw [build_eq, hplain] at hbuild
  cases hbuild
  rfl

/-- **What a built parser answers.**  A layout that steps lead to builds a parser exactly if it has a
plain one.  A text is answered exactly if some remainder of it is read by the plain parser and keeps
the rules; the answer is the sequence of the first such remainder, marked with its side if the layout
has sides. -/
theorem build_layers (steps : List Step) :
    let l := ofSteps steps
    (∀ error, l.build = .error error ↔ l.plain = .error error) ∧
    ∀ plain, l.plain = .ok plain → ∃ parser log, l.build = .ok ⟨parser, log⟩ ∧ ∀ text,
      ((parser text).value.isSome = true ↔
        ∃ r ∈ l.remainders text, ∃ sequence, l.rules.Admits plain.parse r.text sequence) ∧
      ∀ answer, (parser text).value = some answer ↔
        ∃ before r after, l.remainders text = before ++ r :: after ∧
          (∀ tried ∈ before, ∀ s, ¬ l.rules.Admits plain.parse tried.text s) ∧
          ∃ sequence, l.rules.Admits plain.parse r.text sequence ∧
            answer = l.marked r.side sequence := by
  intro l
  rw [build_eq]
  refine ⟨fun error => ?_, fun plain hplain => ?_⟩
  · cases l.plain with
    | error e => simp [Except.map]
    | ok plain => simp [Except.map]
  · rw [hplain]
    exact ⟨l.layers plain.parse, [plain.compiled], rfl, fun text =>
      ⟨value_layers_isSome_iff, fun answer => value_layers_eq_some_iff⟩⟩

/-- Of `rL:up+a` only what is left after both letters is read, and the second letter picks the
side. -/
theorem build_layers_two_letters :
    let up : Input := ⟨"up", "up", "up", .button⟩
    let a : Input := ⟨"a", "a", "a", .button⟩
    ∃ parser log, (ofSteps [.buttons ["up", "a"], .sides {}]).build = .ok ⟨parser, log⟩ ∧
      (parser "rL:up+a").value = some ⟨[⟨[up, a, .sideMarker (some .left) true]⟩]⟩ := by
  intro up a
  obtain ⟨parser, log, hbuild, hanswers⟩ :=
    (build_layers [.buttons ["up", "a"], .sides {}]).2 _ rfl
  refine ⟨parser, log, hbuild, ((hanswers "rL:up+a").2 _).mpr ?_⟩
  refine ⟨[⟨"rL:up+a", none⟩, ⟨"L:up+a", some .right⟩], ⟨"up+a", some .left⟩, [], by decide +kernel,
    ?tried, ⟨[⟨[up, a]⟩]⟩, ⟨?parsed, rfl⟩, rfl⟩
  case tried =>
    intro tried htried
    simp only [List.mem_cons, List.not_mem_nil, or_false] at htried
    rcases htried with rfl | rfl
    · exact Rules.not_admits_of_value_eq_none (by decide +kernel)
    · exact Rules.not_admits_of_value_eq_none (by decide +kernel)
  case parsed =>
    exact PlainParser.value_parse_of_captures rfl
      [⟨⟨[⟨1, "a".toList⟩], false, none⟩, ⟨0, "up".toList⟩⟩] (by decide +kernel) rfl

/-! ## Texts that the plain parser reads as a whole -/

/-- With sides, a text is answered as a whole, or else as what is left after some letters. -/
theorem value_layers_of_sides {p : SidePrefixes} (hsides : l.sides = some p) (base : Parser)
    (text : String) : (l.layers base text).value =
      ((l.rules.checked base text).value.map (.onSide none)).or
        (if p.allowDirected then (p.remaindersAfter text.toList).findSome? fun r =>
          (l.rules.checked base r.text).value.map (.onSide r.side)
        else none) := by
  rw [layers, hsides]
  show ((p.marked (l.rules.checked base)) text).value = _
  rw [SidePrefixes.value_marked, SidePrefixes.remainders, List.findSome?_cons]
  cases p.allowDirected <;> cases (l.rules.checked base text).value <;> rfl

/-- **A text that is read as a whole.**  If its sequence keeps the rules, it is the answer, with the
side left open.  If it breaks a rule, the text may still be answered as what is left of it after some
side letters, the first that is read and keeps the rules, on the side of the last letter. -/
theorem build_of_whole_text {steps : List Step} {p : SidePrefixes} {plain : PlainParser}
    {parser : Parser} {log : List Event} {text : String} {sequence : InputSequence}
    (hsides : (ofSteps steps).sides = some p) (hplain : (ofSteps steps).plain = .ok plain)
    (hbuild : (ofSteps steps).build = .ok ⟨parser, log⟩)
    (hread : (plain.parse text).value = some sequence) :
    let rules := (ofSteps steps).rules
    (rules.violation? sequence = none → (parser text).value = some (sequence.onSide none)) ∧
    (rules.violation? sequence ≠ none → (parser text).value = none ∨
      p.allowDirected = true ∧ ∃ before rest side after other,
        p.remaindersAfter text.toList = before ++ ⟨rest, some side⟩ :: after ∧
          (∀ tried ∈ before, ∀ s, ¬ rules.Admits plain.parse tried.text s) ∧
          rules.Admits plain.parse rest other ∧
          (parser text).value = some (other.onSide (some side))) := by
  intro rules
  obtain rfl := eq_layers_of_build hplain hbuild
  rw [value_layers_of_sides hsides]
  constructor
  · intro hkeeps
    rw [Rules.value_checked_eq_some_iff.mpr ⟨hread, hkeeps⟩]
    rfl
  · intro hbreaks
    have hwhole : (rules.checked plain.parse text).value = none :=
      Rules.value_checked_eq_none_iff.mpr (Rules.not_admits_of_breaks hread hbreaks)
    rw [hwhole, Option.map_none, Option.none_or]
    cases hallowed : p.allowDirected with
    | false => exact .inl rfl
    | true =>
      rw [if_pos rfl]
      cases hfound : (p.remaindersAfter text.toList).findSome? fun r =>
          (rules.checked plain.parse r.text).value.map (InputSequence.onSide r.side) with
      | none => exact .inl rfl
      | some answer =>
        obtain ⟨before, ⟨rest, side⟩, after, htext, hbefore, other, hother, rfl⟩ :=
          Rules.findSome?_checked_eq_some_iff.mp hfound
        have hmem : ⟨rest, side⟩ ∈ p.remaindersAfter text.toList := by simp [htext]
        have hside : side.isSome = true := SidePrefixes.side_isSome_of_mem_remaindersAfter hmem
        obtain ⟨side, rfl⟩ := Option.isSome_iff_exists.mp hside
        exact .inr ⟨rfl, before, rest, side, after, other, htext, hbefore, hother, rfl⟩

/-- `la+a`, `la+b` and `a+b` are read as two buttons each, and `lla+b` is not read. -/
theorem exists_plain_joined :
    let la : Input := ⟨"la", "la", "la", .button⟩
    let a : Input := ⟨"a", "a", "a", .button⟩
    let b : Input := ⟨"b", "b", "b", .button⟩
    ∃ plain, (ofSteps [.buttons ["la", "a", "b"]]).plain = .ok plain ∧
      (plain.parse "la+a").value = some ⟨[⟨[la, a]⟩]⟩ ∧
      (plain.parse "la+b").value = some ⟨[⟨[la, b]⟩]⟩ ∧
      (plain.parse "a+b").value = some ⟨[⟨[a, b]⟩]⟩ ∧
      plain.read "lla+b" = .error .noMatch := by
  intro la a b
  let joined (first second : ReadToken) : ReadSet := ⟨⟨[second], false, none⟩, first⟩
  let laToken : ReadToken := ⟨0, "la".toList⟩
  let aToken : ReadToken := ⟨1, "a".toList⟩
  let bToken : ReadToken := ⟨2, "b".toList⟩
  refine ⟨_, rfl, ?_, ?_, ?_, by decide +kernel⟩
  · exact PlainParser.value_parse_of_captures rfl [joined laToken aToken] (by decide +kernel) rfl
  · exact PlainParser.value_parse_of_captures rfl [joined laToken bToken] (by decide +kernel) rfl
  · exact PlainParser.value_parse_of_captures rfl [joined aToken bToken] (by decide +kernel) rfl

/-- `la+a` keeps the rules.  `la+b` is read as a whole as well, but `la` and `b` conflict, and it is
answered as `a+b` on the left. -/
theorem build_of_whole_text_conflict :
    let steps : List Step := [.buttons ["la", "a", "b"], .conflicts [("la", "b")], .sides {}]
    let la : Input := ⟨"la", "la", "la", .button⟩
    let a : Input := ⟨"a", "a", "a", .button⟩
    ∃ parser log, (ofSteps steps).build = .ok ⟨parser, log⟩ ∧
      (parser "la+a").value = some ⟨[⟨[la, a, .sideMarker none false]⟩]⟩ ∧
      ∃ (other : InputSequence) (side : Side),
        (parser "la+b").value = some (other.onSide (some side)) := by
  intro steps la a
  obtain ⟨plain, hjoined, hkept, hbroken, hrest, -⟩ := exists_plain_joined
  have hplain : (ofSteps steps).plain = .ok plain := hjoined
  obtain ⟨parser, log, hbuild, hanswers⟩ := (build_layers steps).2 plain hplain
  have hanswered : (parser "la+b").value.isSome = true :=
    (hanswers "la+b").1.mpr ⟨⟨"a+b", some .left⟩, by decide +kernel, _, hrest, by decide⟩
  refine ⟨parser, log, hbuild, ?_, ?_⟩
  · exact (build_of_whole_text rfl hplain hbuild hkept).1 (by decide)
  · rcases (build_of_whole_text rfl hplain hbuild hbroken).2 (by decide) with hnone | hshorter
    · rw [hnone] at hanswered
      cases hanswered
    · obtain ⟨_, _, _, side, _, other, _, _, _, hanswer⟩ := hshorter
      exact ⟨other, side, hanswer⟩

/-- So a text that is read as a whole need not be turned down or answered as a whole. -/
theorem not_forall_answered_as_whole : ¬ ∀ (steps : List Step) (p : SidePrefixes)
    (plain : PlainParser) (parser : Parser) (log : List Event) (text : String)
    (sequence : InputSequence), (ofSteps steps).sides = some p → (ofSteps steps).plain = .ok plain →
      (ofSteps steps).build = .ok ⟨parser, log⟩ → (plain.parse text).value = some sequence →
      (parser text).value = none ∨ (parser text).value = some (sequence.onSide none) := by
  intro hall
  let a : Input := ⟨"a", "a", "a", .button⟩
  let b : Input := ⟨"b", "b", "b", .button⟩
  let steps : List Step := [.buttons ["la", "a", "b"], .conflicts [("la", "b")], .sides {}]
  obtain ⟨plain, hjoined, -, hbroken, hrest, -⟩ := exists_plain_joined
  have hplain : (ofSteps steps).plain = .ok plain := hjoined
  obtain ⟨parser, log, hbuild, hanswers⟩ := (build_layers steps).2 plain hplain
  have hanswer : (parser "la+b").value =
      some ⟨[⟨[a, b, .sideMarker (some .left) true]⟩]⟩ :=
    ((hanswers "la+b").2 _).mpr ⟨[⟨"la+b", none⟩], ⟨"a+b", some .left⟩, [], by decide +kernel,
      List.forall_mem_singleton.mpr (Rules.not_admits_of_breaks hbroken (by decide)), _,
      ⟨hrest, by decide⟩, rfl⟩
  have hwhole := hall steps {} plain parser log "la+b" _ rfl hplain hbuild hbroken
  rw [hanswer] at hwhole
  revert hwhole
  decide

end Layout

end ChatPad
