import ChatPad.Proofs.Layout.History
import ChatPad.Proofs.Layout.Layers
import ChatPad.Proofs.Parser.Plain

/-!
# The shape of an answer

Whatever a built parser answers, it answers in one shape: a number of sets within the limits, and in
each set the controls first, then the hold marker, then the marker of the side.  The limits on the
length of a set come from the grammar, the limit on the number of sets also from assembly, since
repeat digits multiply sets, and the side marker from the layer of sides.

* `isShaped_played`: a set of a reading has this shape, if its definitions are built-in;
* `PlainParser.shape_of_parse`: so has every set that the plain parser answers;
* `Layout.build_shape`: the same for a built parser, with the limits and sides that were set last.
-/

namespace ChatPad

/-- The set is some controls, as many as the limits allow, then a hold marker or none, which also has
to be allowed, and then the inputs of `ending`. -/
def InputSet.IsShaped (limits : Limits) (ending : List Input) (set : InputSet) : Prop :=
  ∃ (controls : List Input) (held : Bool),
    (1 ≤ controls.length ∧ controls.length ≤ limits.setLength) ∧
    (∀ i ∈ controls, i.isHold = false ∧ i.isSide = false) ∧
    (held = true → limits.hold = true) ∧
    set.inputs = controls ++ (if held then [Input.hold] else []) ++ ending

variable {definitions : List Definition} {limits : Limits}

/-! ## Sets of a reading -/

/-- What a token of built-in definitions is read as. -/
theorem ReadToken.of_input? (hdefinitions : ∀ d ∈ definitions, d.BuiltIn) {t : ReadToken} {i : Input}
    (h : t.input? definitions = some i) : i.typed = String.ofList t.word ∧ i.kind.IsControl := by
  rw [input?, Option.bind_eq_bind, Option.bind_eq_some_iff] at h
  obtain ⟨d, hd, hread⟩ := h
  exact (hdefinitions d (List.mem_of_getElem? hd)).of_read hread

/-- A set of a reading has as many controls as it has tokens. -/
theorem isShaped_played (hdefinitions : ∀ d ∈ definitions, d.BuiltIn) {set : ReadSet}
    (hset : set.Valid definitions limits)
    (hread : ∀ t ∈ set.tokens, (t.input? definitions).isSome = true) :
    (set.played definitions).IsShaped limits [] := by
  have hlength := List.filterMap_length_eq_length.mpr hread
  have htokens : set.tokens.length = 1 + set.more.length := by
    rw [ReadSet.tokens, List.length_cons, Nat.add_comm]
  have hmost := hset.rest.length
  refine ⟨set.tokens.filterMap (ReadToken.input? definitions), set.held, ⟨by omega, by omega⟩, ?_,
    hset.rest.held, (List.append_nil _).symm⟩
  intro i hi
  obtain ⟨t, _, ht⟩ := List.mem_filterMap.mp hi
  exact (ReadToken.of_input? hdefinitions ht).2.no_marker

/-! ## Answers -/

/-- **The answer of the plain parser has the shape that the limits promise.** -/
theorem PlainParser.shape_of_parse {p : PlainParser} (hdefinitions : ∀ d ∈ definitions, d.BuiltIn)
    (hp : ofDefinitions definitions limits = .ok p) {text : String} {sequence : InputSequence}
    (h : (p.parse text).value = some sequence) :
    1 ≤ sequence.sets.length ∧ sequence.sets.length ≤ limits.sequenceLength ∧
      ∀ set ∈ sequence.sets, set.IsShaped limits [] := by
  obtain ⟨sets, hreads, hread, hlength, rfl⟩ := exists_reads_of_read hp (value_parse_eq_some_iff.mp h)
  refine ⟨?_, hlength, ?_⟩
  · exact List.length_pos_iff.mpr (Reading.played_ne_nil hreads.ne_nil hreads.valid)
  · intro set hset
    obtain ⟨source, hsource, hcopy⟩ := List.mem_flatMap.mp hset
    obtain rfl := List.eq_of_mem_replicate hcopy
    exact isShaped_played hdefinitions (hreads.valid source hsource) (hread source hsource)

theorem InputSet.IsShaped.add {set : InputSet} (h : set.IsShaped limits []) (marker : Input) :
    (set.add marker).IsShaped limits [marker] := by
  obtain ⟨controls, held, hlength, hcontrols, hheld, hinputs⟩ := h
  refine ⟨controls, held, hlength, hcontrols, hheld, ?_⟩
  rw [InputSet.add, hinputs, List.append_nil]

namespace Layout

theorem plain_eq_ok {l : Layout} {plain : PlainParser} (h : l.plain = .ok plain) :
    PlainParser.ofDefinitions l.definitions l.limits = .ok plain := by
  rw [Layout.plain] at h
  split at h
  · cases h
  · exact h

/-- What every set of an answer ends in: without sides nothing, and with sides the marker of one side,
or of none, which is spelled out exactly if there is one. -/
def IsEnding (sides : Option SidePrefixes) (ending : List Input) : Prop :=
  match sides with
  | none => ending = []
  | some _ => ∃ side : Option Side, ending = [.sideMarker side side.isSome]

/-- **The shape of an answer.**  It has at least one set and no more than were allowed last.  Each set
has at least one control and no more than were allowed last, then a hold marker at most, and that only
if holding was enabled last, and then, if sides were set, their marker, the same in all sets. -/
theorem build_shape {steps : List Step} {parser : Parser} {log : List Event}
    (hbuild : (ofSteps steps).build = .ok ⟨parser, log⟩) {text : String} {answer : InputSequence}
    (h : (parser text).value = some answer) :
    (1 ≤ answer.sets.length ∧ answer.sets.length ≤ (limitsOf steps).sequenceLength) ∧
    ∃ ending, IsEnding (lastSet Step.sides? steps) ending ∧
      ∀ set ∈ answer.sets, set.IsShaped (limitsOf steps) ending := by
  obtain ⟨plain, hplain⟩ := exists_plain_of_build hbuild
  obtain rfl := eq_layers_of_build hplain hbuild
  obtain ⟨_, r, _, _, _, sequence, hadmits, rfl⟩ := value_layers_eq_some_iff.mp h
  have hp := plain_eq_ok hplain
  rw [limits_ofSteps] at hp
  obtain ⟨hone, hmost, hsets⟩ :=
    PlainParser.shape_of_parse (builtIn_of_mem_ofSteps steps) hp hadmits.parsed
  rw [marked, sides_ofSteps]
  cases lastSet Step.sides? steps with
  | none => exact ⟨⟨hone, hmost⟩, [], rfl, hsets⟩
  | some prefixes =>
    simp only [InputSequence.onSide, InputSequence.mapSets, List.length_map, List.forall_mem_map]
    exact ⟨⟨hone, hmost⟩, _, ⟨r.side, rfl⟩, fun set hset => (hsets set hset).add _⟩

/-- A layout whose lengths are set twice: the last ones count, and three sets are allowed. -/
theorem build_shape_last_lengths :
    let steps : List Step := [.lengths 1 1, .buttons ["a", "b"], .sides {}, .lengths 2 3]
    ∃ parser log answer, (ofSteps steps).build = .ok ⟨parser, log⟩ ∧
      (parser "ra+b-3").value = some answer ∧
      (1 ≤ answer.sets.length ∧ answer.sets.length ≤ 3) ∧
      ∃ ending, IsEnding (some {}) ending ∧
        ∀ set ∈ answer.sets, set.IsShaped { setLength := 2, sequenceLength := 3 } ending := by
  intro steps
  let a : Input := ⟨"a", "a", "a", .button⟩
  let b : Input := ⟨"b", "b", "b", .button⟩
  let set : InputSet := ⟨[a, b, .hold]⟩
  obtain ⟨plain, hplain, hread⟩ : ∃ plain, (ofSteps steps).plain = .ok plain ∧
      (plain.parse "a+b-3").value = some ⟨[set, set, set]⟩ :=
    ⟨_, rfl, PlainParser.value_parse_of_captures rfl
      [⟨⟨[⟨1, "b".toList⟩], true, some 3⟩, ⟨0, "a".toList⟩⟩] (by decide +kernel) rfl⟩
  obtain ⟨parser, log, hbuild, hanswers⟩ := (build_layers steps).2 plain hplain
  have hanswered : (parser "ra+b-3").value.isSome = true :=
    (hanswers "ra+b-3").1.mpr ⟨⟨"a+b-3", some .right⟩, by decide +kernel, _, hread, by decide⟩
  obtain ⟨answer, hanswer⟩ := Option.isSome_iff_exists.mp hanswered
  exact ⟨parser, log, answer, hbuild, hanswer, build_shape hbuild hanswer⟩

end Layout

end ChatPad
