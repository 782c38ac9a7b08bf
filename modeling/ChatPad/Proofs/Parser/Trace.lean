import ChatPad.Proofs.Parser.Plain
import ChatPad.Proofs.Text.Slice

/-!
# The trace of a message

The plain parser can tell what it saw in a message.  What it tells is enough to put the message
together again: its sets stand one behind the other, and in each set stand its tokens with a `+`
between them, then its hold marker, then its repeat digit, and nothing else.

* `TracedSet.Fits` says where the parts of one set stand, and what stands there;
* `ReadSet.fits_traced`: the trace of a set of a reading fits;
* `PlainParser.details_trace`: a message that matches leaves such a trace, and any other leaves none.
-/

namespace ChatPad

/-! ## What a trace says -/

/-- What one set of a message leaves in a trace: from where to where it goes, its tokens, each with
the number of the definition that it is attributed to, the offset of its hold marker, and its repeat
digit with its offset. -/
structure TracedSet where
  start : Nat
  stop : Nat
  first : Nat × MatchedToken
  more : List (Nat × MatchedToken)
  hold : Option Nat
  times : Option (Nat × Nat)

namespace TracedSet

def span (set : TracedSet) : Nat × Nat := (set.start, set.stop)

def tokens (set : TracedSet) : List (Nat × MatchedToken) := set.first :: set.more

/-- Where the last token ends. -/
def tokensStop (set : TracedSet) : Nat := (set.tokens.getLast (List.cons_ne_nil _ _)).2.stop

/-- Where the hold marker ends, or else the last token. -/
def holdStop (set : TracedSet) : Nat :=
  match set.hold with
  | none => set.tokensStop
  | some offset => offset + 1

/-- Where the repeat digit ends, or else what stands before it. -/
def timesStop (set : TracedSet) : Nat :=
  match set.times with
  | none => set.holdStop
  | some (offset, _) => offset + 1

/-- The captures that the trace of a set is made from. -/
def captures (set : TracedSet) : List Capture :=
  set.tokens.map (fun t => .token t.1 t.2.slot t.2.start t.2.stop t.2.text.toList) ++
    (set.hold.toList.map .hold ++
      (set.times.toList.map (fun times => .times times.1 times.2) ++ [.set set.start set.stop]))

end TracedSet

/-- A token of a trace is what stands at its place.  It is not empty, and the definition that it is
attributed to matches it. -/
structure MatchedToken.Fits (definitions : List Definition) (text : List Char)
    (t : Nat × MatchedToken) : Prop where
  ne_nil : t.2.start < t.2.stop
  slice : Text.slice? text t.2.start t.2.stop = some t.2.text.toList
  matched : ∃ d, definitions[t.1]? = some d ∧ d.description = t.2.definition ∧
    d.fragment.Matches t.2.text.toList

/-- A token begins one byte behind the one before it, and that byte is a `+`. -/
structure MatchedToken.Follows (text : List Char) (t later : Nat × MatchedToken) : Prop where
  slot : later.2.slot = .additional
  start : later.2.start = t.2.stop + 1
  plus : Text.slice? text t.2.stop later.2.start = some ['+']

/-- The parts of a set stand one behind the other, from where the set begins to where it ends. -/
structure TracedSet.Fits (definitions : List Definition) (text : List Char) (set : TracedSet) :
    Prop where
  first : set.first.2.slot = .leading ∧ set.first.2.start = set.start
  more : set.tokens.IsChain (MatchedToken.Follows text)
  tokens : ∀ t ∈ set.tokens, MatchedToken.Fits definitions text t
  hold : ∀ offset ∈ set.hold,
    offset = set.tokensStop ∧ Text.slice? text offset (offset + 1) = some ['-']
  times : ∀ times ∈ set.times, times.1 = set.holdStop ∧ (1 ≤ times.2 ∧ times.2 ≤ 9) ∧
    Text.slice? text times.1 (times.1 + 1) = some [Nat.digitChar times.2]
  stop : set.stop = set.timesStop

/-- The spans cover a text of some length, one behind the other. -/
structure IsPartition (length : Nat) (spans : List (Nat × Nat)) : Prop where
  first : spans.head?.map Prod.fst = some 0
  next : spans.IsChain fun span later => span.2 = later.1
  last : spans.getLast?.map Prod.snd = some length

namespace Details

/-- The trace is empty. -/
structure IsBlank (d : Details) : Prop where
  tokens : d.tokens = []
  sets : d.sets = []
  holds : d.holds = []
  repeats : d.repeats = []

/-- The trace is that of some sets, one after the other. -/
structure IsTraceOf (d : Details) (traces : List TracedSet) : Prop where
  tokens : d.tokens = traces.flatMap fun set => set.tokens.map Prod.snd
  sets : d.sets = traces.map TracedSet.span
  holds : d.holds = traces.filterMap TracedSet.hold
  repeats : d.repeats = traces.filterMap TracedSet.times

/-- The number of spans of sets that an offset lies in. -/
def spansAt (d : Details) (offset : Nat) : Nat :=
  d.sets.countP fun span => span.1 ≤ offset && offset < span.2

end Details

/-! ## The trace of a reading -/

/-- A token as it is traced. -/
def PlacedToken.traced (label : Nat → String) (slot : Slot) (t : PlacedToken) : Nat × MatchedToken :=
  (t.definition,
    ⟨label t.definition, slot, t.start, t.start + Text.byteLength t.word, String.ofList t.word⟩)

/-- A set as it is traced that begins at an offset. -/
def ReadSet.traced (label : Nat → String) (offset : Nat) (set : ReadSet) : TracedSet :=
  let tokensStop := offset + Text.byteLength set.first.word + Text.byteLength (moreText set.more)
  { start := offset
    stop := offset + Text.byteLength set.text
    first := PlacedToken.traced label .leading ⟨set.first.definition, offset, set.first.word⟩
    more := (placeTokens (offset + Text.byteLength set.first.word + 1) set.more).map
      (PlacedToken.traced label .additional)
    hold := if set.held then some tokensStop else none
    times := set.times.map (tokensStop + Text.byteLength (holdText set.held), ·) }

/-- The sets of a message as they are traced. -/
def Reading.traced (label : Nat → String) : Nat → Reading → List TracedSet
  | _, [] => []
  | offset, set :: later =>
    set.traced label offset :: Reading.traced label (offset + Text.byteLength set.text) later

theorem moreText_cons (t : ReadToken) (more : List ReadToken) :
    moreText (t :: more) = '+' :: (t.word ++ moreText more) := by
  rw [moreText, List.flatMap_cons, List.cons_append]
  rfl

/-- A further token takes its own width and that of the `+` before it. -/
theorem offset_moreText_cons (offset : Nat) (t : ReadToken) (more : List ReadToken) :
    offset + Text.byteLength (moreText (t :: more)) =
      offset + 1 + Text.byteLength t.word + Text.byteLength (moreText more) := by
  rw [moreText_cons, Text.byteLength, Text.byteLength_append, ← Nat.add_assoc, ← Nat.add_assoc]
  rfl

/-! ## Captures -/

theorem restCaptures_eq (label : Nat → String) (start : Nat) (held : Bool) (times : Option Nat)
    (more : List ReadToken) : ∀ offset, restCaptures start held times offset more =
      ((placeTokens (offset + 1) more).map (PlacedToken.traced label .additional)).map
          (fun t => .token t.1 t.2.slot t.2.start t.2.stop t.2.text.toList) ++
        holdCaptures start (offset + Text.byteLength (moreText more)) times held := by
  induction more with
  | nil => exact fun offset => rfl
  | cons t more ih =>
    intro offset
    rw [restCaptures, ih, offset_moreText_cons, placeTokens, List.map_cons, List.map_cons,
      PlacedToken.traced, String.toList_ofList]
    rfl

/-- The captures of a set are those of its trace. -/
theorem ReadSet.captures_traced (label : Nat → String) (set : ReadSet) (offset : Nat) :
    (set.traced label offset).captures = set.captures offset := by
  obtain ⟨⟨more, held, times⟩, first⟩ := set
  have hdash : '-'.utf8Size = 1 := rfl
  have hends : ∀ stop,
      (if held then some stop else none : Option Nat).toList.map Capture.hold ++
        ((times.map (stop + Text.byteLength (holdText held), ·)).toList.map
            (fun times => .times times.1 times.2) ++
          [.set offset (stop + Text.byteLength (holdText held ++ timesText times))]) =
        holdCaptures offset stop times held := by
    intro stop
    cases held <;> cases times <;>
      simp [holdCaptures, timesCaptures, holdText, timesText, Text.byteLength, utf8Size_digitChar,
        hdash, Nat.add_assoc]
  rw [captures, SetRest.captures, restCaptures_eq label, ← hends]
  simp only [TracedSet.captures, TracedSet.tokens, traced, List.map_cons, List.cons_append,
    PlacedToken.traced, String.toList_ofList, ReadSet.text, SetRest.text, Text.byteLength_append,
    Nat.add_assoc]
  rfl

theorem Reading.captures_traced (label : Nat → String) (sets : Reading) : ∀ offset,
    (Reading.traced label offset sets).flatMap TracedSet.captures =
      Reading.captures offset sets := by
  induction sets with
  | nil => exact fun offset => rfl
  | cons set later ih =>
    intro offset
    rw [Reading.traced, List.flatMap_cons, ih, ReadSet.captures_traced, Reading.captures]

/-! ## Where the parts of a set end -/

theorem stop_getLast_traced (label : Nat → String) (more : List ReadToken) :
    ∀ (offset : Nat) (previous : Nat × MatchedToken), previous.2.stop = offset →
      ((previous :: (placeTokens (offset + 1) more).map
        (PlacedToken.traced label .additional)).getLast (List.cons_ne_nil _ _)).2.stop =
        offset + Text.byteLength (moreText more) := by
  induction more with
  | nil => exact fun _ _ hstop => hstop
  | cons t more ih =>
    intro offset previous _
    rw [offset_moreText_cons]
    exact ih (offset + 1 + Text.byteLength t.word) _ rfl

variable (label : Nat → String) (set : ReadSet) (offset : Nat)

theorem ReadSet.tokensStop_traced : (set.traced label offset).tokensStop =
    offset + Text.byteLength set.first.word + Text.byteLength (moreText set.more) :=
  stop_getLast_traced label set.more _ _ rfl

theorem ReadSet.holdStop_traced : (set.traced label offset).holdStop =
    offset + Text.byteLength set.first.word + Text.byteLength (moreText set.more) +
      Text.byteLength (holdText set.held) := by
  rw [TracedSet.holdStop, set.tokensStop_traced, traced]
  cases set.held <;> rfl

theorem ReadSet.timesStop_traced : (set.traced label offset).timesStop =
    offset + Text.byteLength set.text := by
  have htext : offset + Text.byteLength set.text =
      (set.traced label offset).holdStop + Text.byteLength (timesText set.times) := by
    rw [set.holdStop_traced, ReadSet.text, SetRest.text]
    simp only [Text.byteLength_append, Nat.add_assoc]
  rw [htext, TracedSet.timesStop]
  cases htimes : set.times with
  | none =>
    rw [traced, htimes]
    rfl
  | some count =>
    rw [byteLength_timesText_some, set.holdStop_traced, traced, htimes]
    rfl

/-! ## Where things stand -/

section Standing

variable {definitions : List Definition} {limits : Limits} {label : Nat → String} {set : ReadSet}
  (hlabel : ∀ id d, definitions[id]? = some d → label id = d.description)
  {text before after : List Char}

include hlabel

/-- A token of a reading stands at its place. -/
theorem PlacedToken.fits_traced {t : ReadToken} (ht : t.Valid definitions) (slot : Slot)
    (htext : text = before ++ (t.word ++ after)) : MatchedToken.Fits definitions text
      (PlacedToken.traced label slot ⟨t.definition, Text.byteLength before, t.word⟩) := by
  obtain ⟨d, hd, hmatches⟩ := ht.matched
  refine ⟨Nat.lt_add_of_pos_right (Text.byteLength_pos ht.ne_nil), ?_, d, hd,
    (hlabel _ d hd).symm, ?_⟩
  · rw [traced, String.toList_ofList]
    exact Text.slice?_eq_some_iff.mpr ⟨before, after, htext, rfl, rfl⟩
  · rw [traced, String.toList_ofList]
    exact hmatches

/-- **Further tokens** stand one behind the other, from the end of the token before them on. -/
theorem fits_more {more : List ReadToken} (hmore : ∀ t ∈ more, t.Valid definitions) :
    ∀ (before : List Char) (previous : Nat × MatchedToken),
      text = before ++ (moreText more ++ after) → previous.2.stop = Text.byteLength before →
      let later := (placeTokens (Text.byteLength before + 1) more).map
        (PlacedToken.traced label .additional)
      (previous :: later).IsChain (MatchedToken.Follows text) ∧
        ∀ t ∈ later, MatchedToken.Fits definitions text t := by
  induction more with
  | nil => exact fun _ _ _ _ => ⟨.singleton _, nofun⟩
  | cons t more ih =>
    intro before previous htext hstop
    obtain ⟨ht, hmore⟩ := List.forall_mem_cons.mp hmore
    have hplus : Text.byteLength (before ++ ['+']) = Text.byteLength before + 1 :=
      Text.byteLength_append before ['+']
    have hword : Text.byteLength (before ++ ['+'] ++ t.word) =
        Text.byteLength before + 1 + Text.byteLength t.word := by
      rw [Text.byteLength_append, hplus]
    have htoken : text = before ++ ['+'] ++ (t.word ++ (moreText more ++ after)) := by
      rw [htext, moreText_cons]
      simp only [List.append_assoc, List.cons_append, List.nil_append]
    have hrest : text = before ++ ['+'] ++ t.word ++ (moreText more ++ after) := by
      rw [htoken, ← List.append_assoc]
    have hfits := PlacedToken.fits_traced hlabel ht .additional htoken
    rw [hplus] at hfits
    obtain ⟨hchain, hlater⟩ := ih hmore (before ++ ['+'] ++ t.word)
      (PlacedToken.traced label .additional ⟨t.definition, Text.byteLength before + 1, t.word⟩)
      hrest hword.symm
    rw [hword] at hchain hlater
    refine ⟨.cons_cons ⟨rfl, ?_, ?_⟩ hchain, List.forall_mem_cons.mpr ⟨hfits, hlater⟩⟩
    · rw [hstop]
      rfl
    · rw [hstop]
      exact Text.slice?_eq_some_iff.mpr ⟨before, _, htoken.trans (List.append_assoc _ _ _), rfl, rfl⟩

/-- **The trace of a set of a reading fits**, whatever stands before and after the set. -/
theorem ReadSet.fits_traced (hset : set.Valid definitions limits)
    (htext : text = before ++ (set.text ++ after)) :
    (set.traced label (Text.byteLength before)).Fits definitions text := by
  have hword : Text.byteLength (before ++ set.first.word) =
      Text.byteLength before + Text.byteLength set.first.word := Text.byteLength_append _ _
  have hfirstText : text = before ++ (set.first.word ++ (set.toSetRest.text ++ after)) := by
    rw [htext, ReadSet.text, List.append_assoc]
  have hmoreText : text = before ++ set.first.word ++
      (moreText set.more ++ (holdText set.held ++ timesText set.times ++ after)) := by
    rw [hfirstText, SetRest.text]
    simp only [List.append_assoc]
  have hholdText : text = before ++ set.first.word ++ moreText set.more ++
      (holdText set.held ++ (timesText set.times ++ after)) := by
    rw [hmoreText]
    simp only [List.append_assoc]
  have htimesText : text = before ++ set.first.word ++ moreText set.more ++ holdText set.held ++
      (timesText set.times ++ after) := by
    rw [hholdText]
    simp only [List.append_assoc]
  obtain ⟨hchain, hlater⟩ := fits_more hlabel hset.rest.more (before ++ set.first.word)
    (PlacedToken.traced label .leading ⟨set.first.definition, Text.byteLength before,
      set.first.word⟩) hmoreText hword.symm
  rw [hword] at hchain hlater
  refine ⟨⟨rfl, rfl⟩, hchain, List.forall_mem_cons.mpr ⟨?_, hlater⟩, ?_, ?_, ?_⟩
  · exact PlacedToken.fits_traced hlabel hset.first .leading hfirstText
  · intro offset hoffset
    rw [set.tokensStop_traced]
    cases hheld : set.held with
    | false =>
      rw [traced, hheld] at hoffset
      cases hoffset
    | true =>
      rw [traced, hheld] at hoffset
      obtain rfl := Option.some.inj hoffset
      rw [hheld] at hholdText
      refine ⟨rfl, Text.slice?_eq_some_iff.mpr ⟨_, _, hholdText, ?_, rfl⟩⟩
      rw [Text.byteLength_append, hword]
  · intro times hcount
    rw [set.holdStop_traced]
    obtain ⟨count, htimes, rfl⟩ := Option.map_eq_some_iff.mp hcount
    rw [htimes] at htimesText
    obtain ⟨_, hone, hmost⟩ := hset.rest.times count htimes
    refine ⟨rfl, ⟨hone, hmost.trans (Nat.min_le_right _ _)⟩,
      Text.slice?_eq_some_iff.mpr ⟨_, _, htimesText, ?_, ?_⟩⟩
    · rw [Text.byteLength_append, Text.byteLength_append, hword]
    · exact congrArg (_ + ·) (byteLength_timesText_some count)
  · exact (set.timesStop_traced label _).symm

theorem Reading.fits_traced {sets : Reading} (hsets : ∀ set ∈ sets, set.Valid definitions limits) :
    ∀ before : List Char, text = before ++ (Reading.text sets ++ after) →
      ∀ trace ∈ Reading.traced label (Text.byteLength before) sets, trace.Fits definitions text := by
  induction sets with
  | nil => exact fun _ _ => nofun
  | cons set later ih =>
    intro before htext
    obtain ⟨hset, hlater⟩ := List.forall_mem_cons.mp hsets
    have hsetText : text = before ++ (set.text ++ (Reading.text later ++ after)) := by
      rw [htext, Reading.text, List.flatMap_cons, List.append_assoc]
      rfl
    have hlaterText : text = before ++ set.text ++ (Reading.text later ++ after) := by
      rw [hsetText, List.append_assoc]
    have hrest := ih hlater (before ++ set.text) hlaterText
    rw [Text.byteLength_append] at hrest
    exact List.forall_mem_cons.mpr ⟨ReadSet.fits_traced hlabel hset hsetText, hrest⟩

end Standing

/-! ## Spans -/

section Spans

variable {label : Nat → String}

theorem span_traced_cons (offset : Nat) (set : ReadSet) (later : Reading) :
    (Reading.traced label offset (set :: later)).map TracedSet.span =
      (offset, offset + Text.byteLength set.text) ::
        (Reading.traced label (offset + Text.byteLength set.text) later).map TracedSet.span :=
  rfl

/-- The spans of a reading stand one behind the other. -/
theorem isChain_span_traced (sets : Reading) : ∀ offset,
    ((Reading.traced label offset sets).map TracedSet.span).IsChain
      fun span later => span.2 = later.1 := by
  induction sets with
  | nil => exact fun offset => .nil
  | cons set later ih =>
    intro offset
    cases later with
    | nil => exact .singleton _
    | cons next later => exact .cons_cons rfl (ih (offset + Text.byteLength set.text))

theorem byteLength_text_cons (set : ReadSet) (later : Reading) :
    Text.byteLength (Reading.text (set :: later)) =
      Text.byteLength set.text + Text.byteLength (Reading.text later) := by
  rw [Reading.text, List.flatMap_cons, Text.byteLength_append]
  rfl

theorem getLast?_span_traced (later : Reading) : ∀ (set : ReadSet) (offset : Nat),
    ((Reading.traced label offset (set :: later)).map TracedSet.span).getLast?.map Prod.snd =
      some (offset + Text.byteLength (Reading.text (set :: later))) := by
  induction later with
  | nil =>
    intro set offset
    rw [byteLength_text_cons]
    rfl
  | cons next later ih =>
    intro set offset
    rw [byteLength_text_cons, ← Nat.add_assoc, ← ih, span_traced_cons, span_traced_cons,
      List.getLast?_cons_cons]

/-- **An offset of the text lies in one span**, and any other in none. -/
theorem countP_span_traced (x : Nat) (sets : Reading) : ∀ offset,
    ((Reading.traced label offset sets).map TracedSet.span).countP
        (fun span => span.1 ≤ x && x < span.2) =
      if offset ≤ x ∧ x < offset + Text.byteLength (Reading.text sets) then 1 else 0 := by
  induction sets with
  | nil =>
    intro offset
    rw [if_neg]
    · rfl
    · rintro ⟨hle, hlt⟩
      exact absurd hlt (Nat.not_lt.mpr hle)
  | cons set later ih =>
    intro offset
    rw [span_traced_cons, List.countP_cons, ih, byteLength_text_cons, ← Nat.add_assoc]
    simp only [Bool.and_eq_true, decide_eq_true_eq]
    split <;> split <;> split <;> omega

end Spans

/-! ## The trace of a message -/

theorem TracedSet.filterMap_captures {α : Type} (f : Capture → Option α) (set : TracedSet) :
    set.captures.filterMap f =
      set.tokens.filterMap
          (fun t => f (.token t.1 t.2.slot t.2.start t.2.stop t.2.text.toList)) ++
        (set.hold.toList.filterMap (fun offset => f (.hold offset)) ++
          (set.times.toList.filterMap (fun times => f (.times times.1 times.2)) ++
            (f (.set set.start set.stop)).toList)) := by
  rw [captures, List.filterMap_append, List.filterMap_append, List.filterMap_append,
    List.filterMap_map, List.filterMap_map, List.filterMap_map]
  rfl

/-- An alternative is labelled by its definition. -/
theorem Grammar.label_eq {definitions : List Definition} {limits : Limits} {g : Grammar}
    (h : compile definitions limits = .ok g) {id : Nat} {d : Definition}
    (hd : definitions[id]? = some d) : g.label id = d.description := by
  obtain ⟨_, _, _, rfl⟩ := compile_eq_ok_iff.mp h
  have hmem : ⟨id, d.fragment, d.description⟩ ∈ alternativesOf definitions :=
    mem_alternativesOf_iff.mpr ⟨d, hd, rfl⟩
  have hfound : ((alternativesOf definitions).find? fun a => a.id == id).isSome = true :=
    List.find?_isSome.mpr ⟨_, hmem, beq_self_eq_true id⟩
  obtain ⟨a, ha⟩ := Option.isSome_iff_exists.mp hfound
  have hid : a.id = id := eq_of_beq (List.find?_some ha :)
  obtain ⟨d', hd', hlabel⟩ := mem_alternativesOf_iff.mp (List.mem_of_find?_eq_some ha)
  rw [hid, hd] at hd'
  obtain rfl := Option.some.inj hd'
  rw [label, ha]
  exact congrArg Alternative.label hlabel

namespace PlainParser

variable {definitions : List Definition} {limits : Limits} {p : PlainParser} {text : String}

/-- What the parser tells of a match are the parts of its captures. -/
theorem isTraceOf_details {traces : List TracedSet}
    (hcaptures : p.grammar.captures? text.toList = some (traces.flatMap TracedSet.captures))
    (hlabel : ∀ trace ∈ traces, ∀ t ∈ trace.tokens, p.grammar.label t.1 = t.2.definition) :
    (p.details text).IsTraceOf traces := by
  have hdetails {α : Type} (f : Capture → Option α) :
      ((p.grammar.captures? text.toList).getD []).filterMap f =
        traces.flatMap fun trace => trace.captures.filterMap f := by
    rw [hcaptures, Option.getD_some, List.filterMap_flatMap]
  refine ⟨(hdetails _).trans ?tokens, (hdetails _).trans ?sets, (hdetails _).trans ?holds,
    (hdetails _).trans ?repeats⟩
  case tokens =>
    refine List.flatMap_congr fun trace htrace => ?_
    have htokens (t : Nat × MatchedToken) (ht : t ∈ trace.tokens) :
        (⟨p.grammar.label t.1, t.2.slot, t.2.start, t.2.stop,
          String.ofList t.2.text.toList⟩ : MatchedToken) = t.2 := by
      rw [hlabel trace htrace t ht, String.ofList_toList]
    rw [TracedSet.filterMap_captures, ← List.map_congr_left htokens]
    simp
  case sets =>
    rw [List.map_eq_flatMap]
    refine List.flatMap_congr fun trace _ => ?_
    simp [TracedSet.filterMap_captures, TracedSet.span]
  case holds =>
    rw [List.filterMap_eq_flatMap_toList]
    refine List.flatMap_congr fun trace _ => ?_
    simp [TracedSet.filterMap_captures]
  case repeats =>
    rw [List.filterMap_eq_flatMap_toList]
    refine List.flatMap_congr fun trace _ => ?_
    simp [TracedSet.filterMap_captures]

/-! ## Results and rejections -/

/-- The parser answers what it tells. -/
theorem value_parse_eq_result (p : PlainParser) (text : String) :
    (p.parse text).value = (p.details text).result := by
  have houtcome : (p.details text).outcome = p.read text := rfl
  rw [parse, Details.result, houtcome]
  cases p.read text <;> rfl

theorem ne_noMatch_of_rejection? {set : ReadSet} {offset : Nat} {rejection : Rejection}
    (h : set.rejection? definitions offset = some rejection) : rejection ≠ .noMatch := by
  obtain ⟨t, _, ht⟩ := Option.bind_eq_some_iff.mp h
  obtain ⟨d, _, ht⟩ := Option.bind_eq_some_iff.mp ht
  dsimp only at ht
  split at ht
  · obtain rfl := Option.some.inj ht
    exact nofun
  · cases ht

/-- A reading is never turned down for want of a match. -/
theorem assembled_ne_noMatch (limit : Nat) (sets : Reading) : ∀ offset produced,
    Reading.assembled definitions limit offset produced sets ≠ .error .noMatch := by
  induction sets with
  | nil => exact fun _ _ => nofun
  | cons set later ih =>
    intro offset produced h
    rw [Reading.assembled] at h
    cases hrejection : set.rejection? definitions offset with
    | some rejection =>
      rw [hrejection] at h
      exact ne_noMatch_of_rejection? hrejection (Except.error.inj h)
    | none =>
      simp only [hrejection] at h
      split at h
      · cases h
      · cases hlater : Reading.assembled definitions limit (offset + Text.byteLength set.text)
            (produced + set.repetitions) later with
        | ok rest =>
          rw [hlater] at h
          cases h
        | error rejection =>
          rw [hlater] at h
          obtain rfl := Except.error.inj h
          exact ih _ _ hlater

/-- **A message is turned down for want of a match exactly if nothing is captured.** -/
theorem read_eq_noMatch_iff (hp : ofDefinitions definitions limits = .ok p) :
    p.read text = .error .noMatch ↔ p.grammar.captures? text.toList = none := by
  obtain ⟨g, hg, rfl⟩ := ofDefinitions_eq_ok_iff.mp hp
  rw [read]
  cases hcaptures : g.captures? text.toList with
  | none => exact ⟨fun _ => rfl, fun _ => rfl⟩
  | some captures =>
    obtain ⟨sets, hreads, rfl⟩ := Grammar.exists_reads_of_captures? hg hcaptures
    refine ⟨fun h => ?_, fun h => absurd h (Option.some_ne_none _)⟩
    have hlimits : g.limits = limits := Grammar.limits_exhaustive hg
    have hassemble : assemble definitions g.limits (Reading.captures 0 sets) = .error .noMatch := h
    rw [hlimits, assemble_captures hreads.valid] at hassemble
    cases hassembled : Reading.assembled definitions limits.sequenceLength 0 0 sets with
    | ok made =>
      rw [hassembled] at hassemble
      cases hassemble
    | error rejection =>
      rw [hassembled] at hassemble
      obtain rfl := Except.error.inj hassemble
      exact absurd hassembled (assembled_ne_noMatch _ sets 0 0)

/-- **What a match leaves** is the trace of some sets that fit and cover the text. -/
theorem exists_traces (hp : ofDefinitions definitions limits = .ok p) {captures : List Capture}
    (h : p.grammar.captures? text.toList = some captures) : ∃ traces : List TracedSet,
      traces ≠ [] ∧ captures = traces.flatMap TracedSet.captures ∧
      (p.details text).IsTraceOf traces ∧
      (∀ trace ∈ traces, trace.Fits definitions text.toList) ∧
      IsPartition text.utf8ByteSize (p.details text).sets ∧
      ∀ x < text.utf8ByteSize, (p.details text).spansAt x = 1 := by
  obtain ⟨g, hg, rfl⟩ := ofDefinitions_eq_ok_iff.mp hp
  obtain ⟨sets, hreads, rfl⟩ := Grammar.exists_reads_of_captures? hg h
  have hlabel : ∀ id d, definitions[id]? = some d → g.label id = d.description :=
    fun _ _ => Grammar.label_eq hg
  have hlength : text.utf8ByteSize = 0 + Text.byteLength (Reading.text sets) := by
    rw [Nat.zero_add, ← hreads.text, Text.byteLength_toList]
  have htext : text.toList = [] ++ (Reading.text sets ++ []) :=
    hreads.text.trans (List.append_nil _).symm
  have hfits := Reading.fits_traced hlabel hreads.valid [] htext
  have htrace : (details ⟨definitions, g⟩ text).IsTraceOf (Reading.traced g.label 0 sets) := by
    refine isTraceOf_details ?_ ?_
    · rw [h, Reading.captures_traced]
    · intro trace htrace t ht
      obtain ⟨d, hd, hdescription, _⟩ := ((hfits trace htrace).tokens t ht).matched
      rw [← hdescription, Grammar.label_eq hg hd]
  obtain ⟨set, later, rfl⟩ := List.exists_cons_of_ne_nil hreads.ne_nil
  refine ⟨Reading.traced g.label 0 (set :: later), List.cons_ne_nil _ _,
    (Reading.captures_traced g.label _ 0).symm, htrace, hfits, ?_, ?_⟩
  · rw [htrace.sets]
    refine ⟨rfl, isChain_span_traced (set :: later) 0, ?_⟩
    rw [getLast?_span_traced, hlength]
  · intro x hx
    rw [Details.spansAt, htrace.sets, countP_span_traced, ← hlength, if_pos ⟨Nat.zero_le x, hx⟩]

/-- **What the parser tells of a message.**  It answers what it tells, and tells either a sequence or
why there is none.  A message that does not match leaves no trace.  The trace of any other message is
that of its sets: they cover the message one behind the other, the parts of each set stand in it one
behind the other and are what the captures say, and no hold marker and no repeat digit is in two sets
or in none. -/
theorem details_trace (hp : ofDefinitions definitions limits = .ok p) (text : String) :
    let d := p.details text
    (p.parse text).value = d.result ∧ Xor (d.result.isSome = true) (d.rejection.isSome = true) ∧
    (d.rejection = some .noMatch ↔ d.IsBlank) ∧
    (d.rejection ≠ some .noMatch → ∃ traces : List TracedSet,
      p.grammar.captures? text.toList = some (traces.flatMap TracedSet.captures) ∧
      d.IsTraceOf traces ∧ (∀ trace ∈ traces, trace.Fits definitions text.toList) ∧
      IsPartition text.utf8ByteSize d.sets ∧
      ∀ x ∈ d.holds ++ d.repeats.map Prod.fst, d.spansAt x = 1) := by
  intro d
  have hrejection : d.rejection = some .noMatch ↔ p.grammar.captures? text.toList = none := by
    rw [← read_eq_noMatch_iff hp]
    have houtcome : d.outcome = p.read text := rfl
    rw [Details.rejection, houtcome]
    cases p.read text <;> simp
  refine ⟨value_parse_eq_result p text, ?_, ?_, ?_⟩
  · rw [Details.result, Details.rejection]
    cases d.outcome with
    | ok sequence => exact .inl ⟨rfl, Bool.false_ne_true⟩
    | error reason => exact .inr ⟨rfl, Bool.false_ne_true⟩
  · rw [hrejection]
    constructor
    · intro hnone
      constructor <;> simp [d, details, hnone]
    · intro hblank
      by_contra hsome
      obtain ⟨captures, hcaptures⟩ := Option.ne_none_iff_exists'.mp hsome
      obtain ⟨traces, hne, _, htrace, _⟩ := exists_traces hp hcaptures
      have hsets : traces.map TracedSet.span = [] := htrace.sets.symm.trans hblank.sets
      exact hne (List.map_eq_nil_iff.mp hsets)
  · intro hne
    rw [Ne, hrejection] at hne
    obtain ⟨captures, hcaptures⟩ := Option.ne_none_iff_exists'.mp hne
    obtain ⟨traces, _, rfl, htrace, hfits, hpartition, hspans⟩ := exists_traces hp hcaptures
    refine ⟨traces, hcaptures, htrace, hfits, hpartition, ?_⟩
    intro x hx
    -- something stands at a hold marker and at a repeat digit, so they lie in the text
    obtain ⟨c, hc⟩ : ∃ c, Text.slice? text.toList x (x + 1) = some [c] := by
      rw [htrace.holds, htrace.repeats, List.mem_append, List.mem_map] at hx
      rcases hx with hx | ⟨times, htimes, rfl⟩
      · obtain ⟨trace, hmem, hhold⟩ := List.mem_filterMap.mp hx
        exact ⟨'-', ((hfits trace hmem).hold x hhold).2⟩
      · obtain ⟨trace, hmem, htimes⟩ := List.mem_filterMap.mp htimes
        exact ⟨_, ((hfits trace hmem).times times htimes).2.2⟩
    have hstop := Text.stop_le_of_slice? hc
    rw [Text.byteLength_toList] at hstop
    exact hspans x hstop

/-- A message with everything that a trace can tell, and a letter of two bytes. -/
theorem details_trace_two_bytes :
    let definitions : List Definition := [.button "é" "E" true, .button "b" "B" true]
    let limits : Limits := { sequenceLength := 4 }
    ∃ p, ofDefinitions definitions limits = .ok p ∧ (p.details "é+b-2b").sets = [(0, 6), (6, 7)] ∧
      (p.details "é+b-2b").holds = [4] ∧ (p.details "é+b-2b").repeats = [(5, 2)] ∧
      ∃ traces : List TracedSet, (p.details "é+b-2b").IsTraceOf traces ∧
        ∀ trace ∈ traces, trace.Fits definitions "é+b-2b".toList := by
  intro definitions limits
  obtain ⟨p, hp, hsets, hholds, hrepeats⟩ : ∃ p, ofDefinitions definitions limits = .ok p ∧
      (p.details "é+b-2b").sets = [(0, 6), (6, 7)] ∧ (p.details "é+b-2b").holds = [4] ∧
      (p.details "é+b-2b").repeats = [(5, 2)] :=
    ⟨_, rfl, by decide +kernel, by decide +kernel, by decide +kernel⟩
  obtain ⟨_, _, hblank, htraces⟩ := details_trace hp "é+b-2b"
  have hmatches : (p.details "é+b-2b").rejection ≠ some .noMatch := by
    intro hnone
    have hempty := (hblank.mp hnone).sets
    rw [hsets] at hempty
    cases hempty
  obtain ⟨traces, _, htrace, hfits, _, _⟩ := htraces hmatches
  exact ⟨p, hp, hsets, hholds, hrepeats, traces, htrace, hfits⟩

end PlainParser

end ChatPad
