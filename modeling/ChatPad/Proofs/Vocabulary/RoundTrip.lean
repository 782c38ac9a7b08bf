import ChatPad.Proofs.Outcome.Pairing
import ChatPad.Proofs.Parser.Plain
import ChatPad.Proofs.Sequence.Typed
import ChatPad.Proofs.Vocabulary.Names

/-!
# Back to chat and read again

With a vocabulary of distinct names, a sequence that was read can be typed in chat and is read again.
Spelled out set by set it is read as the very same sequence.  With runs collapsed, only the first set
of a run is spelled, so what is read does the same (`PlainParser.parse_chat`).

* `isTyped_of_valid`: the sets of a message can be typed again;
* `IsPressSet.sameOutcome_iff_perm`: such sets do the same if they have the same buttons and
  strengths, so it does not matter which set of a run is the one that is spelled;
* `PlainParser.parse_chatOf`: chat is read run by run.
-/

namespace ChatPad

variable {names : List Name} {limits : Limits}

/-! ## Sets of a message -/

theorem isHold_of_isPress {i : Input} (h : i.kind.IsPress) :
    i.isHold = false ∧ i.isSide = false := by
  rw [Input.isHold, Input.isSide]
  rcases h with hkind | ⟨s, hkind, _⟩ <;> simp [hkind]

/-- Every token of a vocabulary of names is read as a press with its text. -/
theorem exists_press_of_valid {t : ReadToken} (ht : t.Valid (definitionsOf names)) :
    ∃ i, t.input? (definitionsOf names) = some i ∧ i.typed = String.ofList t.word ∧
      i.kind.IsPress := by
  obtain ⟨name, hname, hspells⟩ := exists_spells_of_valid ht
  obtain ⟨kind, hkind, hread⟩ := Name.exists_read_of_spells hspells
  have hinput : t.input? (definitionsOf names) = name.definition.read (String.ofList t.word) := by
    rw [ReadToken.input?, definitionsOf, List.getElem?_map, hname]
    rfl
  exact ⟨_, hinput.trans hread, rfl, hkind⟩

/-- **The sets of a message can be typed again.** -/
theorem isTyped_of_valid {set : ReadSet} (hset : set.Valid (definitionsOf names) limits) :
    IsTyped (definitionsOf names) limits (set.played (definitionsOf names)) set := by
  refine isTyped_of_read hset fun t ht => ?_
  obtain ⟨i, hi, htyped, hkind⟩ := exists_press_of_valid (hset.tokens t ht)
  exact ⟨i, hi, htyped, isHold_of_isPress hkind⟩

/-! ## Doing the same -/

/-- What decides whether two inputs of such sets do the same. -/
def pressKey (i : Input) : String × InputKind := (i.button, i.kind)

theorem sameOutcome_iff_kind_eq {k k' : InputKind} (h : k.IsPress ∨ k = .hold)
    (h' : k'.IsPress ∨ k' = .hold) : k.sameOutcome k' = true ↔ k = k' := by
  rcases h with (rfl | ⟨⟨s, hfraction⟩, rfl, hs⟩) | rfl <;>
    rcases h' with (rfl | ⟨⟨s', hfraction'⟩, rfl, hs'⟩) | rfl <;>
    simp only [InputKind.sameOutcome, beq_iff_eq, reduceCtorEq, InputKind.analog.injEq,
      Strength.mk.injEq]
  exact strengths_isClose_iff s hs s' hs'

theorem sameOutcome_iff_pressKey_eq {a b : Input} (ha : a.kind.IsPress ∨ a.kind = .hold)
    (hb : b.kind.IsPress ∨ b.kind = .hold) :
    a.sameOutcome b = true ↔ pressKey a = pressKey b := by
  rw [Input.sameOutcome, Bool.and_eq_true, beq_iff_eq, sameOutcome_iff_kind_eq ha hb, pressKey,
    pressKey, Prod.mk.injEq]

/-- The set consists of presses, and of a hold marker if it is held. -/
def IsPressSet (set : InputSet) : Prop :=
  ∃ presses held, set = heldSet presses held ∧ ∀ i ∈ presses, i.kind.IsPress

namespace IsPressSet

variable {s t : InputSet}

theorem kind_of_mem (h : IsPressSet s) :
    ∀ i ∈ s.inputs, i.kind.IsPress ∨ i.kind = .hold := by
  obtain ⟨presses, held, rfl, hkinds⟩ := h
  intro i hi
  rcases List.mem_append.mp hi with hi | hi
  · exact .inl (hkinds i hi)
  · cases held with
    | false => cases hi
    | true => exact .inr (by rw [List.mem_singleton.mp hi]; rfl)

/-- **Such sets do the same if they have the same buttons and strengths**, in any order. -/
theorem sameOutcome_iff_perm (hs : IsPressSet s) (ht : IsPressSet t) :
    s.sameOutcome t = true ↔ (s.inputs.map pressKey).Perm (t.inputs.map pressKey) :=
  InputSet.sameOutcome_iff_perm fun a ha b hb =>
    sameOutcome_iff_pressKey_eq (hs.kind_of_mem a ha) (ht.kind_of_mem b hb)

theorem sameOutcome_refl (hs : IsPressSet s) : s.sameOutcome s = true :=
  (hs.sameOutcome_iff_perm hs).mpr (List.Perm.refl _)

theorem sameOutcome_symm (hs : IsPressSet s) (ht : IsPressSet t) (h : s.sameOutcome t = true) :
    t.sameOutcome s = true :=
  (ht.sameOutcome_iff_perm hs).mpr ((hs.sameOutcome_iff_perm ht).mp h).symm

end IsPressSet

theorem isPressSet_of_valid {set : ReadSet} (hset : set.Valid (definitionsOf names) limits) :
    IsPressSet (set.played (definitionsOf names)) := by
  refine ⟨_, set.held, rfl, fun i hi => ?_⟩
  obtain ⟨t, ht, hread⟩ := List.mem_filterMap.mp hi
  obtain ⟨j, hj, _, hkind⟩ := exists_press_of_valid (hset.tokens t ht)
  obtain rfl := Option.some.inj (hread.symm.trans hj)
  exact hkind

/-! ## Reading again -/

namespace PlainParser

variable {p : PlainParser} {text : String}

/-- The sets of a message can be typed again, there is one at least, and the limit is kept. -/
theorem sets_of_parse (hp : ofDefinitions (definitionsOf names) limits = .ok p)
    {sequence : InputSequence} (h : (p.parse text).value = some sequence) :
    sequence.sets ≠ [] ∧ sequence.sets.length ≤ limits.sequenceLength ∧
    ∀ set ∈ sequence.sets, IsPressSet set ∧
      ∃ spelled, IsTyped (definitionsOf names) limits set spelled := by
  obtain ⟨sets, hreads, _, hlength, rfl⟩ := exists_reads_of_read hp (value_parse_eq_some_iff.mp h)
  refine ⟨?_, hlength, ?_⟩
  · exact Reading.played_ne_nil hreads.ne_nil hreads.valid
  · intro set hset
    obtain ⟨spelled, hspelled, hset⟩ := List.mem_flatMap.mp hset
    obtain rfl := List.eq_of_mem_replicate hset
    have hvalid := hreads.valid spelled hspelled
    exact ⟨isPressSet_of_valid hvalid, spelled, isTyped_of_valid hvalid⟩

/-- **Chat is read run by run.** -/
theorem parse_chatOf (hnames : DistinctNames names)
    (hp : ofDefinitions (definitionsOf names) limits = .ok p) {sets : List InputSet}
    (hne : sets ≠ []) (hlength : sets.length ≤ limits.sequenceLength)
    (htyped : ∀ set ∈ sets, ∃ spelled, IsTyped (definitionsOf names) limits set spelled)
    (collapse : Bool) :
    (p.parse (InputSequence.chatOf collapse sets)).value =
      some ⟨replayed (InputSequence.runsOf collapse sets)⟩ := by
  obtain ⟨reading, hreads, hread, hplayed, hcount, _⟩ :=
    exists_reads_of_chatOf hne hlength htyped collapse
  rw [value_parse_eq_some_iff, read_of_reads hnames.unambiguous hp hreads hread
    (hcount.trans_le hlength), hplayed]

/-- **The round trip.**  A sequence that was read is read again from its chat: the very same one if
all of it is spelled out, and one that does the same, set by set, if its runs are collapsed. -/
theorem parse_chat (hnames : DistinctNames names)
    (hp : ofDefinitions (definitionsOf names) limits = .ok p)
    {sequence : InputSequence} (h : (p.parse text).value = some sequence) :
    (p.parse (sequence.chat false)).value = some sequence ∧
    ∃ again, (p.parse (sequence.chat true)).value = some again ∧
      again.sets.length = sequence.sets.length ∧ again.sameOutcome sequence = true ∧
      sequence.sameOutcome again = true := by
  obtain ⟨hne, hlength, hsets⟩ := sets_of_parse hp h
  have hparse := parse_chatOf hnames hp hne hlength fun set hset => (hsets set hset).2
  constructor
  · rw [InputSequence.chat, hparse false, InputSequence.runsOf_false, replayed_map_single]
  · have hruns := InputSequence.flatMap_sets_runsOf true sequence.sets
    -- every set of a run does what the first one does, and the other way around
    have hsame : ∀ run ∈ InputSequence.runsOf true sequence.sets, ∀ set ∈ run.sets,
        run.first.sameOutcome set = true ∧ set.sameOutcome run.first = true := by
      intro run hrun set hset
      have hmem (s : InputSet) (hs : s ∈ run.sets) : IsPressSet s := by
        refine (hsets s ?_).1
        rw [← hruns]
        exact List.mem_flatMap.mpr ⟨run, hrun, hs⟩
      have hfirst := hmem run.first List.mem_cons_self
      rcases List.mem_cons.mp hset with rfl | hcopy
      · exact ⟨hfirst.sameOutcome_refl, hfirst.sameOutcome_refl⟩
      · have halike := (InputSequence.fitsDigit_of_mem_runsOf hrun).alike set hcopy
        exact ⟨(hmem set hset).sameOutcome_symm hfirst halike, halike⟩
    have hforth := forall₂_replayed (R := fun s t => s.sameOutcome t = true)
      fun run hrun set hset => (hsame run hrun set hset).1
    have hback := forall₂_replayed (R := fun s t => t.sameOutcome s = true)
      fun run hrun set hset => (hsame run hrun set hset).2
    rw [hruns] at hforth hback
    exact ⟨_, hparse true, hforth.length_eq, InputSequence.sameOutcome_iff_forall₂.mpr hforth,
      InputSequence.sameOutcome_iff_forall₂.mpr hback.flip⟩

/-- The last three sets do the same and are collapsed; the first is held and has tenths. -/
theorem parse_chat_copies :
    let names : List Name := [{ text := "up", target := "UP" },
      { text := "r", target := "R", isAnalog := true }]
    ∃ p sequence, ofDefinitions (definitionsOf names) { sequenceLength := 4 } = .ok p ∧
      (p.parse "up+r.3-upUP2").value = some sequence ∧
      (p.parse (sequence.chat false)).value = some sequence ∧
      sequence.chat true = "up+r.3-up3" ∧
      ∃ again, (p.parse "up+r.3-up3").value = some again ∧ again.sameOutcome sequence = true := by
  intro names
  have hnames : DistinctNames names := by decide
  let limits : Limits := { sequenceLength := 4 }
  let reading : Reading := [⟨⟨[⟨1, "r.3".toList⟩], true, none⟩, ⟨0, "up".toList⟩⟩,
    ⟨⟨[], false, none⟩, ⟨0, "up".toList⟩⟩, ⟨⟨[], false, some 2⟩, ⟨0, "UP".toList⟩⟩]
  have hlower : ReadToken.Valid (definitionsOf names) ⟨0, "up".toList⟩ :=
    ⟨by decide, _, rfl, by decide⟩
  have hupper : ReadToken.Valid (definitionsOf names) ⟨0, "UP".toList⟩ :=
    ⟨by decide, _, rfl, by decide⟩
  have htenths : ReadToken.Valid (definitionsOf names) ⟨1, "r.3".toList⟩ :=
    ⟨by decide, _, rfl, by decide⟩
  have hvalid : ∀ set ∈ reading, set.Valid (definitionsOf names) limits := by
    intro set hset
    simp only [reading, List.mem_cons, List.not_mem_nil, or_false] at hset
    rcases hset with rfl | rfl | rfl
    · exact ⟨hlower, by simpa using htenths, by decide, fun _ => rfl, nofun⟩
    · exact ⟨hlower, nofun, by decide, nofun, nofun⟩
    · refine ⟨hupper, nofun, by decide, nofun, ?_⟩
      rintro count ⟨⟩
      exact ⟨by decide, by decide, by decide⟩
  have hreads : Reads (definitionsOf names) limits "up+r.3-upUP2".toList reading :=
    ⟨nofun, by decide, hvalid, by decide⟩
  obtain ⟨p, hp⟩ : ∃ p, ofDefinitions (definitionsOf names) limits = .ok p := ⟨_, rfl⟩
  have hparse := value_parse_eq_some_iff.mpr
    (read_of_reads hnames.unambiguous hp hreads (by decide +kernel) (by decide +kernel))
  have hchat : InputSequence.chat ⟨Reading.played (definitionsOf names) reading⟩ true =
      "up+r.3-up3" := by
    decide +kernel
  obtain ⟨hspelled, again, hagain, _, hsame, _⟩ := parse_chat hnames hp hparse
  rw [hchat] at hagain
  exact ⟨p, _, hp, hparse, hspelled, hchat, again, hagain, hsame⟩

end PlainParser

end ChatPad
