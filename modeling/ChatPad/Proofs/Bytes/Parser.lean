import ChatPad.Proofs.Bytes.Assembly
import ChatPad.Proofs.Bytes.Layers
import ChatPad.Proofs.Layout.Layers
import ChatPad.Proofs.Parser.Trace

/-!
# Parsers by byte offset

`Bytes.plain` reads a message as the plain parser does, with its place kept as a byte offset, and
`Bytes.Layer.stackBytes` puts layers over it.

* `Bytes.stands_of_captures?`: the tokens of a match stand in the message, so that assembly can cut
  them out of it again;
* `Bytes.plain_eq`, `Bytes.Layer.stackBytes_eq`: the plain parser does not fail, and no layer over a
  parser that does not fail fails;
* `Bytes.run_stackBytes`: so no message makes a parser fail, under any layers.
-/

namespace ChatPad.Bytes

/-! ## The plain parser -/

section Program

variable (entries : List Entry) (g : Grammar)

/-- Reads a message. -/
def read (text : String) : ExceptT Fault (Except Rejection) InputSequence := do
  match ← marks? g text.toList with
  | none => reject .noMatch
  | some marks => assemble text.toList entries g.limits marks

/-- Reads a message and reports why it is turned down. -/
def plain : Parser := fun text =>
  match (read entries g text).run with
  | .ok (.ok sequence) => pure (some sequence)
  | .ok (.error fault) => throw fault
  | .error reason => liftM (⟨none, [.rejected text reason]⟩ : Reply)

/-- The token that a mark tells of, with the description of its definition. -/
def tokenSeen? (text : List Char) : Mark → Except Fault (Option MatchedToken)
  | .token id slot start stop => do
    let alternative ← entryAt g.alternatives id
    let word ← textBetween text start stop
    .ok (some ⟨alternative.label, slot, start, stop, String.ofList word⟩)
  | _ => .ok none

/-- The tokens that were seen in a message. -/
def tokensSeen (text : String) : Except Fault (List MatchedToken) := do
  let marks ← marks? g text.toList
  let tokens ← (marks.getD []).mapM (tokenSeen? g text.toList)
  .ok (tokens.filterMap id)

end Program

/-! ## Stacks of layers -/

/-- A layer over a parser. -/
inductive Layer where
  | rules (rules : Rules)
  | sides (prefixes : SidePrefixes)

namespace Layer

/-- A parser under layers, the outermost of which is the first. -/
def stack (base : ChatPad.Parser) : List Layer → ChatPad.Parser
  | [] => base
  | rules r :: inner => r.checked (stack base inner)
  | sides p :: inner => p.marked (stack base inner)

/-- A parser that can fail under layers. -/
def stackBytes (base : Parser) : List Layer → Parser
  | [] => base
  | rules r :: inner => checked r (stackBytes base inner)
  | sides p :: inner => marked p (stackBytes base inner)

theorem stackBytes_eq {base : Parser} {base' : ChatPad.Parser}
    (hbase : ∀ text, base text = liftM (base' text)) (layers : List Layer) :
    ∀ text, stackBytes base layers text = liftM (stack base' layers text) := by
  induction layers with
  | nil => exact hbase
  | cons layer inner ih =>
    cases layer with
    | rules r => exact checked_eq r ih
    | sides p => exact marked_eq p ih

end Layer

variable {entries : List Entry} {limits : Limits} {p : PlainParser}

/-- The tokens of a match stand in the message, and belong to entries. -/
theorem stands_of_captures?
    (hp : PlainParser.ofDefinitions (entries.map Entry.definition) limits = .ok p) {text : String}
    {captures : List Capture}
    (h : p.grammar.captures? text.toList = some captures) :
    ∀ c ∈ captures, Stands text.toList entries.length c := by
  obtain ⟨traces, _, rfl, _, hfits, _⟩ := PlainParser.exists_traces hp h
  intro c hc
  obtain ⟨trace, htrace, hc⟩ := List.mem_flatMap.mp hc
  cases c with
  | token id slot start stop word =>
    obtain ⟨t, ht, rfl, rfl, rfl, rfl, rfl⟩ : ∃ t ∈ trace.tokens,
        t.1 = id ∧ t.2.slot = slot ∧ t.2.start = start ∧ t.2.stop = stop ∧ t.2.text.toList = word := by
      simpa [TracedSet.captures] using hc
    have hfit := (hfits trace htrace).tokens t ht
    obtain ⟨d, hd, _⟩ := hfit.matched
    obtain ⟨hlt, _⟩ := List.getElem?_eq_some_iff.mp hd
    exact ⟨by simpa using hlt, hfit.slice⟩
  | hold | times | set => trivial

/-- **The plain parser does not fail.** -/
theorem plain_eq (hp : PlainParser.ofDefinitions (entries.map Entry.definition) limits = .ok p)
    (text : String) : plain entries p.grammar text = liftM (p.parse text) := by
  obtain ⟨g, hg, rfl⟩ := PlainParser.ofDefinitions_eq_ok_iff.mp hp
  have hread : read entries g text =
      liftM (PlainParser.read ⟨entries.map Entry.definition, g⟩ text) := by
    rw [read, bind_access (marks?_eq hg text.toList), PlainParser.read]
    cases hcaptures : g.captures? text.toList with
    | none => rfl
    | some captures => exact assemble_eq g.limits (stands_of_captures? hp hcaptures)
  rw [plain, hread, PlainParser.parse]
  cases PlainParser.read ⟨entries.map Entry.definition, g⟩ text <;> rfl

/-- The token that a capture tells of. -/
def tokenOf? (g : Grammar) : Capture → Option MatchedToken
  | .token id slot start stop word => some ⟨g.label id, slot, start, stop, String.ofList word⟩
  | _ => none

/-- **Nor does telling what was seen.** -/
theorem tokensSeen_eq (hp : PlainParser.ofDefinitions (entries.map Entry.definition) limits = .ok p)
    (text : String) : tokensSeen p.grammar text = .ok (p.details text).tokens := by
  obtain ⟨g, hg, rfl⟩ := PlainParser.ofDefinitions_eq_ok_iff.mp hp
  have hseen {captures : List Capture} (h : g.captures? text.toList = some captures) :
      ∀ c ∈ captures, tokenSeen? g text.toList (markOf c) = .ok (tokenOf? g c) := by
    intro c hc
    cases c with
    | token id slot start stop word =>
      obtain ⟨hlt, hslice⟩ := stands_of_captures? hp h _ hc
      have hd : (entries.map Entry.definition)[id]? = some entries[id].definition := by
        rw [List.getElem?_map, List.getElem?_eq_getElem hlt]
        rfl
      rw [markOf, tokenSeen?, entryAt_alternatives hg hd, textBetween_eq_ok_iff.mpr hslice]
      show _ = Except.ok (some _)
      rw [Grammar.label_eq hg hd]
      rfl
    | hold | times | set => rfl
  rw [tokensSeen, marks?_eq hg, PlainParser.details]
  cases hcaptures : g.captures? text.toList with
  | none => rfl
  | some captures =>
    have htokens : captures.mapM (tokenSeen? g text.toList ∘ markOf) = .ok _ :=
      mapM_eq_ok (hseen hcaptures)
    show (captures.map markOf).mapM (tokenSeen? g text.toList) >>= _ = _
    rw [List.mapM_map, htokens]
    exact congrArg Except.ok (List.filterMap_map ..)

/-- **No message makes a parser fail.**  A parser that keeps its place as a byte offset, under any
layers and for any vocabulary, answers every message, and it answers what the parser without offsets
answers: whatever it cuts out of the message lies between characters, it looks up nothing that is not
there, and it takes no byte for a digit that is none. -/
theorem run_stackBytes (hp : PlainParser.ofDefinitions (entries.map Entry.definition) limits = .ok p)
    (layers : List Layer) (text : String) :
    (Layer.stackBytes (plain entries p.grammar) layers text).run =
      ⟨.ok (Layer.stack p.parse layers text).value, (Layer.stack p.parse layers text).log⟩ ∧
    tokensSeen p.grammar text = .ok (p.details text).tokens := by
  refine ⟨?_, tokensSeen_eq hp text⟩
  rw [Layer.stackBytes_eq (plain_eq hp) layers text]
  exact congrArg (Logged.mk _) (List.append_nil _)

/-- A letter of two bytes, behind a side letter and in front of a `+`. -/
theorem run_stackBytes_two_bytes :
    let entries : List Entry := [.button "é" "E" true, .button "b" "B" true]
    let limits : Limits := { sequenceLength := 4 }
    let layers : List Layer := [.sides {}, .rules {}]
    ∃ p sequence, PlainParser.ofDefinitions (entries.map Entry.definition) limits = .ok p ∧
      (Layer.stackBytes (plain entries p.grammar) layers "r:é+b-2b").run.value =
        .ok (some sequence) ∧
      (tokensSeen p.grammar "é+b-2b").map (List.map MatchedToken.start) = .ok [0, 3, 6] := by
  intro entries limits layers
  let e : Input := ⟨"é", "E", "é", .button⟩
  let b : Input := ⟨"b", "B", "b", .button⟩
  obtain ⟨p, hp, hread, hstarts⟩ : ∃ p,
      PlainParser.ofDefinitions (entries.map Entry.definition) limits = .ok p ∧
      (p.parse "é+b-2b").value = some ⟨[⟨[e, b, .hold]⟩, ⟨[e, b, .hold]⟩, ⟨[b]⟩]⟩ ∧
      (p.details "é+b-2b").tokens.map MatchedToken.start = [0, 3, 6] := by
    refine ⟨_, rfl, ?_, by decide +kernel⟩
    exact PlainParser.value_parse_of_captures rfl
      [⟨⟨[⟨1, "b".toList⟩], true, some 2⟩, ⟨0, "é".toList⟩⟩,
        ⟨⟨[], false, none⟩, ⟨1, "b".toList⟩⟩] (by decide +kernel) rfl
  obtain ⟨sequence, hvalue⟩ :
      ∃ sequence, (Layer.stack p.parse layers "r:é+b-2b").value = some sequence := by
    rw [← Option.isSome_iff_exists]
    show (SidePrefixes.marked {} (Rules.checked {} p.parse) "r:é+b-2b").value.isSome = true
    rw [SidePrefixes.value_marked, List.findSome?_isSome_iff]
    refine ⟨⟨"é+b-2b", some .right⟩, by decide +kernel, ?_⟩
    rw [Option.isSome_map, Rules.value_checked_eq_some_iff.mpr ⟨hread, by decide⟩]
    rfl
  refine ⟨p, sequence, hp, ?_, ?_⟩
  · rw [(run_stackBytes hp layers "r:é+b-2b").1]
    exact congrArg Except.ok hvalue
  · rw [(run_stackBytes hp layers "é+b-2b").2]
    exact congrArg Except.ok hstarts

end ChatPad.Bytes
