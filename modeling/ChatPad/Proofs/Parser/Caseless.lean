import ChatPad.Proofs.Definition.Caseless
import ChatPad.Proofs.Parser.Plain
import ChatPad.Proofs.Search.Caseless

/-!
# A plain parser that case does not matter to

With built-in definitions, the plain parser finds the same captures in a text and in its lower case
(`Grammar.captures?_toLower`), and it answers both alike, but for the texts that inputs were typed as
(`PlainParser.value_parse_toLower`).
-/

namespace ChatPad

variable {definitions : List Definition} {limits : Limits} {g : Grammar}

/-! ## Captures -/

theorem Grammar.caseless_exhaustive (hdefinitions : ∀ d ∈ definitions, d.BuiltIn)
    (hg : compile definitions limits = .ok g) : g.exhaustive.Caseless where
  candidates _ := rfl
  fragments text a ha := by
    obtain ⟨_, _, _, rfl⟩ := compile_eq_ok_iff.mp hg
    obtain ⟨d, hd, hda⟩ := mem_alternativesOf_iff.mp ha
    rw [hda]
    exact (hdefinitions d (List.mem_of_getElem? hd)).caseless

/-- **The same captures are found whatever the case**, but for their words. -/
theorem Grammar.captures?_toLower (hdefinitions : ∀ d ∈ definitions, d.BuiltIn)
    (hg : compile definitions limits = .ok g) (text : List Char) :
    g.captures? (text.map Char.toLower) =
      (g.captures? text).map (List.map Capture.lowered) := by
  rw [captures?_eq_head? hg, captures?_eq_head? hg,
    (caseless_exhaustive hdefinitions hg).derivations_toLower, List.head?_map]

/-! ## Readings -/

def ReadToken.lowered (t : ReadToken) : ReadToken := { t with word := t.word.map Char.toLower }

/-- The set with its tokens in lower case. -/
def ReadSet.lowered (set : ReadSet) : ReadSet :=
  { set with first := set.first.lowered, more := set.more.map ReadToken.lowered }

theorem ReadToken.capture_lowered (t : ReadToken) (slot : Slot) (offset : Nat) :
    t.lowered.capture slot offset = (t.capture slot offset).lowered := by
  simp only [capture, lowered, Capture.lowered, Text.byteLength_toLower]

theorem timesCaptures_lowered (start offset : Nat) (times : Option Nat) :
    (timesCaptures start offset times).map Capture.lowered = timesCaptures start offset times := by
  cases times <;> rfl

theorem holdCaptures_lowered (start offset : Nat) (times : Option Nat) (held : Bool) :
    (holdCaptures start offset times held).map Capture.lowered =
      holdCaptures start offset times held := by
  cases held with
  | false => exact timesCaptures_lowered start offset times
  | true => exact congrArg (_ :: ·) (timesCaptures_lowered start (offset + 1) times)

theorem restCaptures_lowered (start : Nat) (held : Bool) (times : Option Nat)
    (more : List ReadToken) : ∀ offset : Nat,
      restCaptures start held times offset (more.map ReadToken.lowered) =
        (restCaptures start held times offset more).map Capture.lowered := by
  induction more with
  | nil => exact fun offset => (holdCaptures_lowered start offset times held).symm
  | cons t more ih =>
    intro offset
    have hwidth : Text.byteLength t.lowered.word = Text.byteLength t.word :=
      Text.byteLength_toLower t.word
    rw [List.map_cons, restCaptures, restCaptures, List.map_cons, ReadToken.capture_lowered, hwidth,
      ih]

theorem byteLength_moreText_lowered (more : List ReadToken) :
    Text.byteLength (moreText (more.map ReadToken.lowered)) = Text.byteLength (moreText more) := by
  induction more with
  | nil => rfl
  | cons t more ih =>
    show Text.byteLength (('+' :: t.word.map Char.toLower) ++ moreText (more.map _)) =
      Text.byteLength (('+' :: t.word) ++ moreText more)
    rw [Text.byteLength_append, Text.byteLength_append, Text.byteLength, Text.byteLength,
      Text.byteLength_toLower, ih]

theorem ReadSet.byteLength_text_lowered (set : ReadSet) :
    Text.byteLength set.lowered.text = Text.byteLength set.text := by
  have hrest : Text.byteLength set.lowered.toSetRest.text = Text.byteLength set.toSetRest.text := by
    show Text.byteLength (moreText (set.more.map _) ++ _) = Text.byteLength (moreText set.more ++ _)
    rw [Text.byteLength_append, Text.byteLength_append (moreText set.more),
      byteLength_moreText_lowered]
    rfl
  rw [text, text, Text.byteLength_append, Text.byteLength_append, hrest]
  exact congrArg (· + _) (Text.byteLength_toLower set.first.word)

/-- The trace of a reading in lower case. -/
theorem Reading.captures_lowered (sets : Reading) : ∀ offset : Nat,
    Reading.captures offset (sets.map ReadSet.lowered) =
      (Reading.captures offset sets).map Capture.lowered := by
  induction sets with
  | nil => exact fun _ => rfl
  | cons set later ih =>
    intro offset
    have hwidth : Text.byteLength set.lowered.first.word = Text.byteLength set.first.word :=
      Text.byteLength_toLower set.first.word
    have hset : set.lowered.captures offset = (set.captures offset).map Capture.lowered := by
      rw [ReadSet.captures, ReadSet.captures, List.map_cons, hwidth, SetRest.captures,
        SetRest.captures, ← restCaptures_lowered, ← ReadToken.capture_lowered]
      rfl
    rw [List.map_cons, captures, captures, List.map_append, hset, ReadSet.byteLength_text_lowered, ih]

/-! ## Answers -/

theorem ReadToken.input?_lowered (hdefinitions : ∀ d ∈ definitions, d.BuiltIn) (t : ReadToken) :
    (t.lowered.input? definitions).map Input.untyped =
      (t.input? definitions).map Input.untyped := by
  rw [input?, input?, lowered, toLower_ofList]
  cases hd : definitions[t.definition]? with
  | none => rfl
  | some d => exact (hdefinitions d (List.mem_of_getElem? hd)).read_toLower _

theorem ReadToken.isSome_input?_lowered (hdefinitions : ∀ d ∈ definitions, d.BuiltIn)
    (t : ReadToken) :
    (t.lowered.input? definitions).isSome = (t.input? definitions).isSome := by
  rw [← Option.isSome_map (f := Input.untyped), input?_lowered hdefinitions, Option.isSome_map]

theorem ReadSet.played_lowered (hdefinitions : ∀ d ∈ definitions, d.BuiltIn) (set : ReadSet) :
    (set.lowered.played definitions).untyped = (set.played definitions).untyped := by
  have hread : (set.lowered.tokens.filterMap (ReadToken.input? definitions)).map Input.untyped =
      (set.tokens.filterMap (ReadToken.input? definitions)).map Input.untyped := by
    show ((set.tokens.map ReadToken.lowered).filterMap _).map _ = _
    rw [List.filterMap_map, List.map_filterMap, List.map_filterMap]
    exact List.filterMap_congr fun t _ => t.input?_lowered hdefinitions
  rw [InputSet.untyped, InputSet.untyped, played, played, List.map_append, List.map_append, hread]
  rfl

theorem Reading.played_lowered (hdefinitions : ∀ d ∈ definitions, d.BuiltIn) (sets : Reading) :
    (Reading.played definitions (sets.map ReadSet.lowered)).map InputSet.untyped =
      (Reading.played definitions sets).map InputSet.untyped := by
  rw [played, played, List.flatMap_map, List.map_flatMap, List.map_flatMap]
  refine List.flatMap_congr fun set _ => ?_
  rw [List.map_replicate, List.map_replicate, ReadSet.played_lowered hdefinitions]
  rfl

theorem Reading.isSome_input?_lowered (hdefinitions : ∀ d ∈ definitions, d.BuiltIn)
    (sets : Reading) : (∀ set ∈ sets.map ReadSet.lowered, ∀ t ∈ set.tokens,
        (t.input? definitions).isSome = true) ↔
      ∀ set ∈ sets, ∀ t ∈ set.tokens, (t.input? definitions).isSome = true := by
  rw [List.forall_mem_map]
  refine forall₂_congr fun set _ => ?_
  show (∀ t ∈ set.tokens.map ReadToken.lowered, _) ↔ _
  rw [List.forall_mem_map]
  exact forall₂_congr fun t _ => by rw [t.isSome_input?_lowered hdefinitions]

namespace PlainParser

variable {p : PlainParser}

/-- A reading and its lower case are assembled alike. -/
theorem assemble_lowered (hdefinitions : ∀ d ∈ definitions, d.BuiltIn) {sets : Reading}
    (hsets : ∀ set ∈ sets, set.Valid definitions limits)
    (hlowered : ∀ set ∈ sets.map ReadSet.lowered, set.Valid definitions limits)
    {sequence : InputSequence} :
    (∃ answer, assemble definitions limits ((Reading.captures 0 sets).map Capture.lowered) =
        .ok answer ∧ answer.untyped = sequence) ↔
      ∃ answer, assemble definitions limits (Reading.captures 0 sets) = .ok answer ∧
        answer.untyped = sequence := by
  have hplayed := Reading.played_lowered hdefinitions sets
  have hlength := congrArg List.length hplayed
  rw [List.length_map, List.length_map] at hlength
  have huntyped : InputSequence.untyped ⟨Reading.played definitions (sets.map ReadSet.lowered)⟩ =
      InputSequence.untyped ⟨Reading.played definitions sets⟩ := congrArg InputSequence.mk hplayed
  simp only [← Reading.captures_lowered, assemble_captures_eq_ok_iff hlowered,
    assemble_captures_eq_ok_iff hsets, Reading.isSome_input?_lowered hdefinitions, hlength]
  constructor
  · rintro ⟨_, ⟨hread, hlimit, rfl⟩, rfl⟩
    exact ⟨_, ⟨hread, hlimit, rfl⟩, huntyped.symm⟩
  · rintro ⟨_, ⟨hread, hlimit, rfl⟩, rfl⟩
    exact ⟨_, ⟨hread, hlimit, rfl⟩, huntyped⟩

/-- **A text and its lower case are answered alike**, but for what inputs were typed as. -/
theorem value_parse_toLower (hdefinitions : ∀ d ∈ definitions, d.BuiltIn)
    (hp : ofDefinitions definitions limits = .ok p) (text : String) :
    (p.parse text.toLower).value.map InputSequence.untyped =
      (p.parse text).value.map InputSequence.untyped := by
  obtain ⟨g, hg, rfl⟩ := ofDefinitions_eq_ok_iff.mp hp
  have hlimits : g.limits = limits := Grammar.limits_exhaustive hg
  have hlower := Grammar.captures?_toLower hdefinitions hg text.toList
  ext sequence
  simp only [Option.map_eq_some_iff, value_parse_eq_some_iff, read, toList_toLower, hlower, hlimits]
  cases hcaptures : g.captures? text.toList with
  | none => rfl
  | some captures =>
    obtain ⟨sets, hreads, rfl⟩ := Grammar.exists_reads_of_captures? hg hcaptures
    obtain ⟨sets', hreads', hcaptures'⟩ :=
      Grammar.exists_reads_of_captures? hg (hlower.trans (congrArg _ hcaptures))
    -- what is found in lower case is the trace of the same reading in lower case
    rw [← Reading.captures_lowered] at hcaptures'
    obtain rfl := Reading.captures_injective 0 hcaptures'
    exact assemble_lowered hdefinitions hreads.valid hreads'.valid

end PlainParser

end ChatPad
