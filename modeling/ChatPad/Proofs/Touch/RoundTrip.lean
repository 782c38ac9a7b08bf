import ChatPad.Proofs.Definition.BuiltIn
import ChatPad.Proofs.Parser.Plain
import ChatPad.Proofs.Touch.Outline
import ChatPad.Proofs.Touch.Search

/-!
# Points, back to chat and read again

With a touchscreen and nothing else, a sequence that was read and is spelled out set by set is read
again as the very same sequence.  With runs collapsed, a repeat digit stands directly behind a
coordinate and is read as a part of it wherever there is room for one more digit.

* `PlainParser.exists_eager_of_read`, `PlainParser.read_of_eager`: what is read are eager chains;
* `PlainParser.parse_chat_touch_iff`: the collapsed chat does the same exactly if each of its repeat
  digits is told from the coordinates around it.
-/

namespace ChatPad

variable {name : String} {g : Geometry} {limits : Limits}

/-- Every repeat digit of these runs is told from the coordinates around it: before it stand all the
digits that a second coordinate can have, or a hold marker, and behind it all that a first coordinate
can have, or nothing. -/
def Geometry.TellsRepeats (g : Geometry) (runs : List Run) : Prop :=
  Outline.Ends g.RepeatsApart (runs.map Run.outline)

/-- Where nothing is repeated, there is nothing to tell. -/
theorem Geometry.tellsRepeats_single (sets : List InputSet) :
    g.TellsRepeats (sets.map fun set => ⟨set, []⟩) := by
  induction sets with
  | nil => trivial
  | cons set later ih => exact ⟨nofun, ih⟩

/-! ## Sets of points -/

/-- What a token is read as, if it is read. -/
theorem exists_touch_of_input? {t : ReadToken} {i : Input} (h : t.input? [.touch name g] = some i) :
    i.typed = String.ofList t.word ∧ ∃ x y, i.kind = .touch x y := by
  rw [ReadToken.input?, Option.bind_eq_bind, Option.bind_eq_some_iff] at h
  obtain ⟨d, hd, hread⟩ := h
  obtain rfl := List.mem_singleton.mp (List.mem_of_getElem? hd)
  obtain ⟨x, y, _, rfl⟩ := Definition.of_read_touch hread
  exact ⟨rfl, x, y, rfl⟩

/-- **A set of points can be typed again**, if its points are read. -/
theorem isTyped_touch {set : ReadSet} (hset : set.Valid [.touch name g] limits)
    (hread : ∀ t ∈ set.tokens, (t.input? [.touch name g]).isSome = true) :
    IsTyped [.touch name g] limits (set.played [.touch name g]) set := by
  refine isTyped_of_read hset fun t ht => ?_
  obtain ⟨i, hi⟩ := Option.isSome_iff_exists.mp (hread t ht)
  obtain ⟨htyped, x, y, hkind⟩ := exists_touch_of_input? hi
  exact ⟨i, hi, htyped, by simp [Input.isHold, hkind], by simp [Input.isSide, hkind]⟩

/-- The set consists of touches and hold markers. -/
def InputSet.IsTouched (set : InputSet) : Prop :=
  ∀ i ∈ set.inputs, (∃ x y, i.kind = .touch x y) ∨ i.kind = .hold

theorem isTouched_played (set : ReadSet) : (set.played [.touch name g]).IsTouched := by
  intro i hi
  rcases List.mem_append.mp hi with hi | hi
  · obtain ⟨t, _, ht⟩ := List.mem_filterMap.mp hi
    exact .inl (exists_touch_of_input? ht).2
  · split at hi
    · exact .inr (by rw [List.mem_singleton.mp hi]; rfl)
    · cases hi

theorem Input.sameOutcome_iff_of_touch {a b : Input}
    (ha : (∃ x y, a.kind = .touch x y) ∨ a.kind = .hold) :
    a.sameOutcome b = true ↔ (a.button, a.kind) = (b.button, b.kind) := by
  rw [Input.sameOutcome, Bool.and_eq_true, beq_iff_eq, Prod.mk.injEq]
  refine and_congr_right fun _ => ?_
  rcases ha with ⟨x, y, ha⟩ | ha <;> rw [ha] <;> cases b.kind <;> simp [InputKind.sameOutcome]

namespace InputSet.IsTouched

variable {s t : InputSet}

theorem sameOutcome_iff_perm (hs : s.IsTouched) : s.sameOutcome t = true ↔
    (s.inputs.map fun i => (i.button, i.kind)).Perm (t.inputs.map fun i => (i.button, i.kind)) :=
  InputSet.sameOutcome_iff_perm fun a ha _ _ => Input.sameOutcome_iff_of_touch (hs a ha)

theorem sameOutcome_refl (hs : s.IsTouched) : s.sameOutcome s = true :=
  hs.sameOutcome_iff_perm.mpr (List.Perm.refl _)

theorem sameOutcome_symm (hs : s.IsTouched) (ht : t.IsTouched) (h : s.sameOutcome t = true) :
    t.sameOutcome s = true :=
  ht.sameOutcome_iff_perm.mpr (hs.sameOutcome_iff_perm.mp h).symm

end InputSet.IsTouched

/-- The outlines of what is played are the outlines of the message, played. -/
theorem map_outline_played {sets : Reading} (hsets : ∀ set ∈ sets, set.Valid [.touch name g] limits)
    (hread : ∀ set ∈ sets, ∀ t ∈ set.tokens, (t.input? [.touch name g]).isSome = true) :
    (Reading.played [.touch name g] sets).map InputSet.outline =
      Outline.played (sets.map ReadSet.outline) := by
  rw [Reading.played, List.map_flatMap, Outline.played, List.flatMap_map]
  refine List.flatMap_congr fun set hset => ?_
  rw [List.map_replicate, InputSet.outline, (isTyped_touch (hsets set hset) (hread set hset)).chat]
  rfl

/-! ## What is read -/

namespace PlainParser

variable {p : PlainParser} {text : String} {sequence : InputSequence} {c : PointChain}

/-- What is read is an eager chain. -/
theorem exists_eager_of_read (hp : ofDefinitions [.touch name g] limits = .ok p)
    (h : p.read text = .ok sequence) : ∃ c : PointChain, c.Fits g limits 0 ∧ c.Ends g.EagerEnd ∧
      Reads [.touch name g] limits text.toList c.reading ∧
      (∀ set ∈ c.reading, ∀ t ∈ set.tokens, (t.input? [.touch name g]).isSome = true) ∧
      (Reading.played [.touch name g] c.reading).length ≤ limits.sequenceLength ∧
      sequence = ⟨Reading.played [.touch name g] c.reading⟩ := by
  obtain ⟨grammar, hg, rfl⟩ := ofDefinitions_eq_ok_iff.mp hp
  obtain ⟨captures, hcaptures, hassemble⟩ := (read_eq_ok_iff hg).mp h
  obtain ⟨c, hfits, heager, hreads, rfl⟩ := PointChain.exists_eager_of_captures? hg hcaptures
  exact ⟨c, hfits, heager, hreads, (assemble_captures_eq_ok_iff hreads.valid).mp hassemble⟩

/-- An eager chain is read. -/
theorem read_of_eager (hp : ofDefinitions [.touch name g] limits = .ok p) (hfits : c.Fits g limits 0)
    (heager : c.Ends g.EagerEnd) (hreads : Reads [.touch name g] limits text.toList c.reading)
    (hread : ∀ set ∈ c.reading, ∀ t ∈ set.tokens, (t.input? [.touch name g]).isSome = true)
    (hlength : (Reading.played [.touch name g] c.reading).length ≤ limits.sequenceLength) :
    p.read text = .ok ⟨Reading.played [.touch name g] c.reading⟩ := by
  obtain ⟨grammar, hg, rfl⟩ := ofDefinitions_eq_ok_iff.mp hp
  have hcaptures := PointChain.captures?_eq hg hfits heager hreads.length
  rw [← PointChain.text_reading, ← hreads.text] at hcaptures
  exact (read_eq_ok_iff hg).mpr ⟨_, hcaptures,
    (assemble_captures_eq_ok_iff hreads.valid).mpr ⟨hread, hlength, rfl⟩⟩

/-! ## Reading again -/

/-- **Chat is a message of points**: a chain whose sets have the outlines of the runs. -/
theorem exists_chain_of_chat {sets : List InputSet} (hne : sets ≠ [])
    (hlength : sets.length ≤ limits.sequenceLength)
    (htyped : ∀ set ∈ sets, ∃ spelled, IsTyped [.touch name g] limits set spelled)
    (collapse : Bool) : ∃ c : PointChain, c.Fits g limits 0 ∧
      Reads [.touch name g] limits (InputSequence.chatOf collapse sets).toList c.reading ∧
      (∀ set ∈ c.reading, ∀ t ∈ set.tokens, (t.input? [.touch name g]).isSome = true) ∧
      Reading.played [.touch name g] c.reading = replayed (InputSequence.runsOf collapse sets) ∧
      ∀ P, c.Ends P ↔
        Outline.Ends P ((InputSequence.runsOf collapse sets).map Run.outline) := by
  obtain ⟨reading, hreads, hread, hplayed, _, hspelled⟩ :=
    exists_reads_of_chatOf hne hlength htyped collapse
  obtain ⟨c, hfits, rfl⟩ := PointChain.exists_of_valid hreads.ne_nil hreads.valid
  have houtlines := congrArg (List.map Outline.ofTyped) hspelled
  rw [List.map_map, List.map_map] at houtlines
  refine ⟨c, hfits, hreads, hread, hplayed, fun P => ?_⟩
  rw [c.ends_iff hfits]
  exact iff_of_eq (congrArg (Outline.Ends P) houtlines)

/-- The points of a sequence that was read can be typed again, and spelled out they are eager. -/
theorem touches_of_parse (hp : ofDefinitions [.touch name g] limits = .ok p)
    (h : (p.parse text).value = some sequence) :
    sequence.sets ≠ [] ∧ sequence.sets.length ≤ limits.sequenceLength ∧
    (∀ set ∈ sequence.sets, set.IsTouched ∧
      ∃ spelled, IsTyped [.touch name g] limits set spelled) ∧
    Outline.Ends g.EagerEnd (sequence.sets.map InputSet.outline) := by
  obtain ⟨c, hfits, heager, hreads, hread, hlength, rfl⟩ :=
    exists_eager_of_read hp (value_parse_eq_some_iff.mp h)
  refine ⟨Reading.played_ne_nil hreads.ne_nil hreads.valid, hlength, ?_, ?_⟩
  · intro set hset
    obtain ⟨spelled, hspelled, hset⟩ := List.mem_flatMap.mp hset
    obtain rfl := List.eq_of_mem_replicate hset
    exact ⟨isTouched_played spelled, spelled,
      isTyped_touch (hreads.valid spelled hspelled) (hread spelled hspelled)⟩
  · rw [map_outline_played hreads.valid hread]
    refine Outline.ends_played ?_ ((c.ends_iff hfits).mp heager)
    intro o ho
    obtain ⟨set, hset, rfl⟩ := List.mem_map.mp ho
    exact ReadSet.repetitions_pos (hreads.valid set hset)

/-- If the repeat digits are told, chat is read run by run. -/
theorem parse_chat_of_tellsRepeats (hp : ofDefinitions [.touch name g] limits = .ok p)
    (h : (p.parse text).value = some sequence) {collapse : Bool}
    (hrepeats : g.TellsRepeats (InputSequence.runsOf collapse sequence.sets)) :
    (p.parse (sequence.chat collapse)).value =
      some ⟨replayed (InputSequence.runsOf collapse sequence.sets)⟩ := by
  obtain ⟨hne, hlength, hsets, heager⟩ := touches_of_parse hp h
  obtain ⟨c, hfits, hreads, hread, hplayed, hends⟩ :=
    exists_chain_of_chat hne hlength (fun set hset => (hsets set hset).2) collapse
  have hagain : c.Ends g.EagerEnd :=
    (hends _).mpr (InputSequence.ends_runsOf sequence.sets heager hrepeats)
  have hcount : (Reading.played [.touch name g] c.reading).length ≤ limits.sequenceLength := by
    rw [hplayed, length_replayed, InputSequence.flatMap_sets_runsOf]
    exact hlength
  rw [← hplayed]
  exact value_parse_eq_some_iff.mpr (read_of_eager hp hfits hagain hreads hread hcount)

/-- If chat is read as a sequence of the same length, the repeat digits are told. -/
theorem tellsRepeats_of_parse_chat (hp : ofDefinitions [.touch name g] limits = .ok p)
    (h : (p.parse text).value = some sequence) {collapse : Bool} {again : InputSequence}
    (hagain : (p.parse (sequence.chat collapse)).value = some again)
    (hlengths : again.sets.length = sequence.sets.length) :
    g.TellsRepeats (InputSequence.runsOf collapse sequence.sets) := by
  obtain ⟨hne, hlength, hsets, _⟩ := touches_of_parse hp h
  obtain ⟨c, hfits, hreads, _, hplayed, hends⟩ :=
    exists_chain_of_chat hne hlength (fun set hset => (hsets set hset).2) collapse
  obtain ⟨found, hfound, heager, hreads', _, _, rfl⟩ :=
    exists_eager_of_read hp (value_parse_eq_some_iff.mp hagain)
  obtain ⟨c', hfits', hreread⟩ := c.exists_rereads hfits
  obtain ⟨grammar, hg, _⟩ := ofDefinitions_eq_ok_iff.mp hp
  have htext : found.text = c'.text := by
    rw [hreread.text, ← PointChain.text_reading, ← PointChain.text_reading, ← hreads.text]
    exact hreads'.text.symm
  have hsame : found.reading = c'.reading :=
    PointChain.reading_eq_of_eager hg hfound hfits' heager hreread.eager hreads'.length
      (hreread.length_reading.trans_le hreads.length) htext
  have hplays : c'.plays = c.plays := by
    have hcount := congrArg List.length hplayed
    rw [length_replayed, InputSequence.flatMap_sets_runsOf] at hcount
    rw [← PointChain.length_played_reading [.touch name g], ← hsame,
      ← PointChain.length_played_reading [.touch name g], hcount]
    exact hlengths
  exact (hends _).mp (hreread.apart hplays)

/-- **The round trip of points.**  Spelled out, a sequence that was read is read again as the very
same one.  With runs collapsed it is read as one that does the same exactly if every repeat digit is
told from the coordinates around it. -/
theorem parse_chat_touch_iff (hp : ofDefinitions [.touch name g] limits = .ok p)
    (h : (p.parse text).value = some sequence) :
    (p.parse (sequence.chat false)).value = some sequence ∧
    ((∃ again, (p.parse (sequence.chat true)).value = some again ∧
        again.sameOutcome sequence = true ∧ sequence.sameOutcome again = true) ↔
      g.TellsRepeats (InputSequence.runsOf true sequence.sets)) := by
  refine ⟨?_, ?_, fun hrepeats => ?_⟩
  · have hrepeats : g.TellsRepeats (InputSequence.runsOf false sequence.sets) := by
      rw [InputSequence.runsOf_false]
      exact Geometry.tellsRepeats_single sequence.sets
    rw [parse_chat_of_tellsRepeats hp h hrepeats, InputSequence.runsOf_false, replayed_map_single]
  · rintro ⟨again, hagain, hsame, _⟩
    exact tellsRepeats_of_parse_chat hp h hagain
      (InputSequence.sameOutcome_iff_forall₂.mp hsame).length_eq
  · obtain ⟨_, _, hsets, _⟩ := touches_of_parse hp h
    exact ⟨_, parse_chat_of_tellsRepeats hp h hrepeats, InputSequence.sameOutcome_replayed
      (fun s hs => (hsets s hs).1.sameOutcome_refl)
      (fun s hs t ht => (hsets s hs).1.sameOutcome_symm (hsets t ht).1) true⟩

/-- A repeat digit between two coordinates of full length is told from both. -/
theorem parse_chat_touch_iff_between :
    let g : Geometry := { width := 240, height := 160 }
    ∃ p sequence, ofDefinitions [.touch "touchscreen" g] { sequenceLength := 3 } = .ok p ∧
      (p.parse "120,0802100,050").value = some sequence ∧
      (p.parse (sequence.chat false)).value = some sequence ∧
      sequence.chat true = "120,0802100,050" ∧
      ∃ again, (p.parse "120,0802100,050").value = some again ∧
        again.sameOutcome sequence = true := by
  intro g
  let limits : Limits := { sequenceLength := 3 }
  let c : PointChain :=
    .next "120".toList "080".toList false (some 2) (.last "100".toList "050".toList false none)
  have hfits : c.Fits g limits 0 := by
    refine ⟨by decide, ⟨by decide, nofun, ?_⟩, by decide, ⟨by decide, nofun, nofun⟩⟩
    rintro _ ⟨⟩
    exact ⟨by decide, by decide, by decide⟩
  have heager : c.Ends g.EagerEnd :=
    ⟨⟨.inr (by decide), .inr (by decide)⟩, .inr (.inl (by decide))⟩
  have hreads : Reads [.touch "touchscreen" g] limits "120,0802100,050".toList c.reading :=
    PointChain.reads_reading hfits (by decide)
  obtain ⟨p, hp⟩ : ∃ p, ofDefinitions [.touch "touchscreen" g] limits = .ok p := ⟨_, rfl⟩
  have hparse := value_parse_eq_some_iff.mpr
    (read_of_eager hp hfits heager hreads (by decide +kernel) (by decide +kernel))
  have hchat : InputSequence.chat ⟨Reading.played [.touch "touchscreen" g] c.reading⟩ true =
      "120,0802100,050" := by
    decide +kernel
  have hruns : (InputSequence.runsOf true (Reading.played [.touch "touchscreen" g] c.reading)).map
      Run.outline = [⟨3, 3, some 2⟩, ⟨3, 3, none⟩] := by
    decide +kernel
  have hrepeats : g.TellsRepeats
      (InputSequence.runsOf true (Reading.played [.touch "touchscreen" g] c.reading)) := by
    rw [Geometry.TellsRepeats, hruns]
    refine ⟨fun _ _ _ => ⟨.inr (by decide), .inr (by decide)⟩, nofun, trivial⟩
  obtain ⟨hspelled, hcollapsed⟩ := parse_chat_touch_iff hp hparse
  obtain ⟨again, hagain, hsame, _⟩ := hcollapsed.mpr hrepeats
  rw [hchat] at hagain
  exact ⟨p, _, hp, hparse, hspelled, hchat, again, hagain, hsame⟩

/-- **Collapsed chat is not always read as the sequence it was written for**: two points `1,2` are
typed as `1,22`, which is one point. -/
theorem not_forall_parse_chat_touch : ¬ ∀ (name : String) (width height : Nat) (limits : Limits)
    (p : PlainParser) (text : String) (sequence : InputSequence), 0 < width → 0 < height →
      ofDefinitions [.touch name { width := width, height := height }] limits = .ok p →
      (p.parse text).value = some sequence →
      ∃ again, (p.parse (sequence.chat true)).value = some again ∧
        again.sameOutcome sequence = true := by
  intro hall
  let g : Geometry := { width := 240, height := 160 }
  let limits : Limits := { sequenceLength := 2 }
  let c : PointChain := .next ['1'] ['2'] false none (.last ['1'] ['2'] false none)
  have hpoint : g.FitsPoint ['1'] ['2'] := by decide
  have hfits : c.Fits g limits 0 :=
    ⟨hpoint, ⟨by decide, nofun, nofun⟩, hpoint, ⟨by decide, nofun, nofun⟩⟩
  have heager : c.Ends g.EagerEnd := ⟨.inr (.inr (by decide)), .inr (.inr (by decide))⟩
  have hreads : Reads [.touch "touchscreen" g] limits "1,21,2".toList c.reading :=
    PointChain.reads_reading hfits (by decide)
  obtain ⟨p, hp⟩ : ∃ p, ofDefinitions [.touch "touchscreen" g] limits = .ok p := ⟨_, rfl⟩
  have hparse := value_parse_eq_some_iff.mpr
    (read_of_eager hp hfits heager hreads (by decide +kernel) (by decide +kernel))
  obtain ⟨again, hagain, hsame⟩ :=
    hall "touchscreen" 240 160 limits p _ _ (by decide) (by decide) hp hparse
  have hrepeats := tellsRepeats_of_parse_chat hp hparse hagain
    (InputSequence.sameOutcome_iff_forall₂.mp hsame).length_eq
  have hruns : (InputSequence.runsOf true (Reading.played [.touch "touchscreen" g] c.reading)).map
      Run.outline = [⟨1, 1, some 2⟩] := by
    decide +kernel
  rw [Geometry.TellsRepeats, hruns] at hrepeats
  -- one digit stands before the repeat digit, where there is room for three
  exact absurd (hrepeats.1 2 rfl le_rfl).before (by decide)

end PlainParser

end ChatPad
