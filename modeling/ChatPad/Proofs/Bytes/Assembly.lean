import ChatPad.Assembly
import ChatPad.Proofs.Bytes.Definition
import ChatPad.Proofs.Bytes.Matcher

/-!
# Assembly by byte offset

`Bytes.assemble` puts a sequence together from marks, as a program does that cuts the tokens out of the
message when it reads them.  The queue of a token, the entry that a queue belongs to, and the text of a
token are accesses that can fail.

* `Bytes.demux_eq`: sorting marks into queues does not fail, if the numbers of all tokens are numbers
  of entries;
* `Bytes.drain_eq`: nor does reading the tokens before an offset, if the tokens that wait stand in the
  message; and then those that are left do so too (`Bytes.AreQueues.of_drain`);
* `Bytes.assemble_eq`: so it is for a whole message, by induction on its sets.
-/

namespace ChatPad.Bytes

/-- Where a token begins and ends. -/
abbrev Span := Nat × Nat

/-- What was marked, each kind of mark on its own, and the tokens of each entry on their own. -/
structure Demux where
  queues : List (List Span)
  setEnds : List Nat
  holds : List Nat
  repeats : List (Nat × Nat)

namespace Demux

/-- Puts a mark at the end of where marks of its kind wait. -/
def push (demux : Demux) : Mark → Except Fault Demux
  | .token alternative _ start stop => do
    let queue ← entryAt demux.queues alternative
    .ok { demux with queues := demux.queues.set alternative (queue ++ [(start, stop)]) }
  | .hold offset => .ok { demux with holds := demux.holds ++ [offset] }
  | .times offset count => .ok { demux with repeats := demux.repeats ++ [(offset, count)] }
  | .set _ stop => .ok { demux with setEnds := demux.setEnds ++ [stop] }

/-- Puts everything in the order of the message. -/
def sorted (demux : Demux) : Demux where
  queues := demux.queues.map fun queue => queue.mergeSort Assembly.pairLe
  setEnds := demux.setEnds.mergeSort
  holds := demux.holds.mergeSort
  repeats := demux.repeats.mergeSort Assembly.pairLe

/-- Sorts marks into as many queues as there are entries. -/
def ofMarks (count : Nat) (marks : List Mark) : Except Fault Demux := do
  let demux ← marks.foldlM push ⟨List.replicate count [], [], [], []⟩
  .ok demux.sorted

end Demux

/-- Turns a message down. -/
def reject {α : Type} (rejection : Rejection) : ExceptT Fault (Except Rejection) α :=
  liftM (.error rejection : Except Rejection α)

section Program

variable (text : List Char) (entries : List Entry)

/-- Reads tokens of the entry with a number, up to the first that it refuses. -/
def readSpans (id : Nat) : List Span → ExceptT Fault (Except Rejection) (List (Nat × Input))
  | [] => pure []
  | (start, stop) :: later => do
    let word ← textBetween text start stop
    let entry ← entryAt entries id
    match ← entry.read (String.ofList word) with
    | none =>
      let entry ← entryAt entries id
      reject (.tokenRejected entry.definition.description (String.ofList word) start)
    | some input => do
      let more ← readSpans id later
      pure ((start, input) :: more)

/-- Takes from every queue the tokens before an offset; the first queue belongs to the entry with the
number `id`. -/
def drain (boundary : Nat) : Nat → List (List Span) →
    ExceptT Fault (Except Rejection) (List (Nat × Input) × List (List Span))
  | _, [] => pure ([], [])
  | id, queue :: later => do
    let taken ← readSpans text entries id (queue.takeWhile fun span => span.1 < boundary)
    let (more, rest) ← drain boundary (id + 1) later
    pure (taken ++ more, queue.dropWhile (fun span => span.1 < boundary) :: rest)

/-- Closes the sets that end at these offsets, one after the other, after those that are already
`done`. -/
def closeSets (limit : Nat) : List Nat → Demux → List InputSet →
    ExceptT Fault (Except Rejection) InputSequence
  | [], _, done => pure ⟨done⟩
  | boundary :: later, demux, done => do
    let (read, queues) ← drain text entries boundary 0 demux.queues
    let typed := (read.mergeSort fun a b => a.1 ≤ b.1).map Prod.snd
    let held := Assembly.isNext boundary demux.holds.head?
    let repeated := Assembly.isNext boundary (demux.repeats.head?.map Prod.fst)
    let inputs := if held then typed ++ [Input.hold] else typed
    let count := if repeated then (demux.repeats.head?.map Prod.snd).getD 1 else 1
    let done := done ++ List.replicate count ⟨inputs⟩
    if limit < done.length then reject (.sequenceTooLong done.length limit)
    else
      closeSets limit later
        { demux with
          queues := queues
          holds := if held then demux.holds.tail else demux.holds
          repeats := if repeated then demux.repeats.tail else demux.repeats }
        done

/-- Assembles the marks of a match into a sequence. -/
def assemble (limits : Limits) (marks : List Mark) :
    ExceptT Fault (Except Rejection) InputSequence := do
  let demux ← Demux.ofMarks entries.length marks
  closeSets text entries limits.sequenceLength demux.setEnds demux []

end Program

/-! ## Sorting marks -/

/-- The token of a capture stands at its place in a text, and its number is one of so many. -/
def Stands (text : List Char) (count : Nat) : Capture → Prop
  | .token alternative _ start stop word =>
    alternative < count ∧ Text.slice? text start stop = some word
  | _ => True

/-- The marks of some captures, each kind on its own. -/
def demuxOf (count : Nat) (captures : List Capture) : Demux where
  queues := (List.range count).map fun id =>
    (Assembly.tokensOf captures id).map Assembly.Token.span
  setEnds := Assembly.setEndsOf captures
  holds := Assembly.holdsOf captures
  repeats := Assembly.repeatsOf captures

variable {text : List Char} {entries : List Entry} {count : Nat}

/-- A token that stands in a text ends where its length says. -/
theorem span_of_slice? {start stop : Nat} {word : List Char}
    (h : Text.slice? text start stop = some word) :
    Assembly.Token.span (start, word) = (start, stop) := by
  obtain ⟨_, _, _, _, hstop⟩ := Text.slice?_eq_some_iff.mp h
  exact congrArg (start, ·) hstop

theorem demuxOf_append (count : Nat) (captures : List Capture) (c : Capture) :
    demuxOf count (captures ++ [c]) =
      { queues := (List.range count).map fun id => (Assembly.tokensOf captures id).map
          Assembly.Token.span ++ (Assembly.tokensOf [c] id).map Assembly.Token.span
        setEnds := Assembly.setEndsOf captures ++ Assembly.setEndsOf [c]
        holds := Assembly.holdsOf captures ++ Assembly.holdsOf [c]
        repeats := Assembly.repeatsOf captures ++ Assembly.repeatsOf [c] } := by
  simp only [demuxOf, Assembly.tokensOf, Assembly.setEndsOf, Assembly.holdsOf, Assembly.repeatsOf,
    List.filterMap_append, List.map_append]

/-- A queue that grows among others. -/
theorem set_map_range {α : Type} {f g : Nat → α} {id : Nat} {a : α} (ha : g id = a)
    (hg : ∀ other ≠ id, g other = f other) :
    ((List.range count).map f).set id a = (List.range count).map g := by
  refine List.ext_getElem (by simp) fun i hi _ => ?_
  rw [List.getElem_set, List.getElem_map, List.getElem_map, List.getElem_range]
  split
  · rename_i heq
    rw [← heq, ha]
  · rename_i hne
    exact (hg i fun h => hne h.symm).symm

theorem push_demuxOf (captures : List Capture) {c : Capture} (hc : Stands text count c) :
    (demuxOf count captures).push (markOf c) = .ok (demuxOf count (captures ++ [c])) := by
  rw [demuxOf_append]
  cases c with
  | token alternative slot start stop word =>
    obtain ⟨hlt, hslice⟩ := hc
    have hqueue : entryAt (demuxOf count captures).queues alternative =
        .ok ((Assembly.tokensOf captures alternative).map Assembly.Token.span) := by
      rw [entryAt_eq_ok_iff, demuxOf, List.getElem?_map, List.getElem?_range hlt]
      rfl
    have hset : (demuxOf count captures).queues.set alternative
        ((Assembly.tokensOf captures alternative).map Assembly.Token.span ++ [(start, stop)]) =
          (List.range count).map fun id => (Assembly.tokensOf captures id).map Assembly.Token.span ++
            (Assembly.tokensOf [.token alternative slot start stop word] id).map
              Assembly.Token.span := by
      refine set_map_range ?_ fun other hother => ?_
      · simp [Assembly.tokensOf, span_of_slice? hslice]
      · simp [Assembly.tokensOf, Ne.symm hother]
    rw [markOf, Demux.push, hqueue]
    show Except.ok (Demux.mk _ _ _ _) = _
    rw [hset]
    simp [demuxOf, Assembly.setEndsOf, Assembly.holdsOf, Assembly.repeatsOf]
  | hold | times | set =>
    simp [markOf, Demux.push, demuxOf, Assembly.tokensOf, Assembly.setEndsOf, Assembly.holdsOf,
      Assembly.repeatsOf]

/-- **Sorting marks into queues does not fail.** -/
theorem demux_eq {captures : List Capture} (h : ∀ c ∈ captures, Stands text count c) :
    Demux.ofMarks count (captures.map markOf) = .ok (demuxOf count captures).sorted := by
  have hfold (later : List Capture) : ∀ earlier : List Capture, (∀ c ∈ later, Stands text count c) →
      (later.map markOf).foldlM Demux.push (demuxOf count earlier) =
        .ok (demuxOf count (earlier ++ later)) := by
    induction later with
    | nil =>
      intro earlier _
      rw [List.append_nil]
      rfl
    | cons c later ih =>
      intro earlier hlater
      obtain ⟨hc, hlater⟩ := List.forall_mem_cons.mp hlater
      rw [List.map_cons, List.foldlM_cons, push_demuxOf earlier hc]
      show List.foldlM _ _ _ = _
      rw [ih _ hlater, List.append_assoc, List.singleton_append]
  have hstart : (⟨List.replicate count [], [], [], []⟩ : Demux) = demuxOf count [] := by
    have hqueues : List.replicate count ([] : List Span) = (List.range count).map fun _ => [] := by
      rw [List.map_const', List.length_range]
    rw [hqueues]
    rfl
  rw [Demux.ofMarks, hstart, hfold captures [] h]
  rfl

/-! ## Reading tokens -/

/-- The token stands in a text. -/
def IsAt (text : List Char) (token : Assembly.Token) : Prop :=
  Text.slice? text token.span.1 token.span.2 = some token.2

theorem readSpans_eq {id : Nat} {entry : Entry} (hentry : entries[id]? = some entry)
    {tokens : List Assembly.Token} (htokens : ∀ token ∈ tokens, IsAt text token) :
    readSpans text entries id (tokens.map Assembly.Token.span) =
      liftM (Assembly.readTokens entry.definition tokens) := by
  induction tokens with
  | nil => rfl
  | cons token later ih =>
    obtain ⟨start, word⟩ := token
    obtain ⟨htoken, hlater⟩ := List.forall_mem_cons.mp htokens
    have hentryAt := entryAt_eq_ok_iff.mpr hentry
    have hword : textBetween text start (start + Text.byteLength word) = .ok word :=
      textBetween_eq_ok_iff.mpr htoken
    show readSpans text entries id ((start, start + Text.byteLength word) :: _) = _
    rw [readSpans, bind_access hword, bind_access hentryAt, bind_access (entry.read_eq _),
      Assembly.readTokens]
    show (match entry.definition.read (String.ofList word) with | none => _ | some input => _) =
      liftM (match entry.definition.read (String.ofList word) with | none => _ | some input => _)
    cases entry.definition.read (String.ofList word) with
    | none => exact bind_access hentryAt _
    | some input =>
      have hmore := bind_eq_liftM (ih hlater) fun more =>
        (liftM_pure ((start, input) :: more)).symm
      refine hmore.trans (congrArg liftM ?_)
      cases Assembly.readTokens entry.definition later <;> rfl

/-- The queue holds tokens that stand in a text, and belongs to the entry with a number. -/
structure IsQueue (text : List Char) (entries : List Entry) (id : Nat) (queue : Assembly.Queue) :
    Prop where
  entry : ∃ entry, entries[id]? = some entry ∧ queue.definition = entry.definition
  tokens : ∀ token ∈ queue.tokens, IsAt text token

/-- The queues are those of the entries from a number on. -/
def AreQueues (text : List Char) (entries : List Entry) (first : Nat)
    (queues : List Assembly.Queue) : Prop :=
  ∀ i queue, queues[i]? = some queue → IsQueue text entries (first + i) queue

variable {first : Nat} {queues : List Assembly.Queue}

theorem areQueues_cons_iff {queue : Assembly.Queue} :
    AreQueues text entries first (queue :: queues) ↔
      IsQueue text entries first queue ∧ AreQueues text entries (first + 1) queues := by
  constructor
  · intro h
    refine ⟨h 0 queue rfl, fun i later hi => ?_⟩
    rw [Nat.add_assoc, Nat.add_comm 1]
    exact h (i + 1) later hi
  · rintro ⟨hqueue, hlater⟩ i later hi
    cases i with
    | zero =>
      obtain rfl := Option.some.inj hi
      exact hqueue
    | succ i =>
      rw [← Nat.add_assoc, Nat.add_right_comm]
      exact hlater i later hi

/-- Where the tokens of a queue begin and end. -/
def spansOf (queue : Assembly.Queue) : List Span := queue.tokens.map Assembly.Token.span

/-- **Taking the tokens before an offset does not fail**, if the tokens that wait stand in the
text. -/
theorem drain_eq (boundary : Nat) (h : AreQueues text entries first queues) :
    drain text entries boundary first (queues.map spansOf) =
      liftM (Assembly.drain boundary queues >>= fun drained =>
        pure (drained.1, drained.2.map spansOf)) := by
  induction queues generalizing first with
  | nil => rfl
  | cons queue later ih =>
    obtain ⟨hqueue, hlater⟩ := areQueues_cons_iff.mp h
    obtain ⟨entry, hentry, hdefinition⟩ := hqueue.entry
    have htokens : ∀ token ∈ queue.tokens.takeWhile fun t => t.1 < boundary, IsAt text token :=
      fun token ht => hqueue.tokens token (List.takeWhile_subset _ ht)
    have htaken : readSpans text entries first
        ((spansOf queue).takeWhile fun span => span.1 < boundary) =
          liftM (Assembly.readTokens entry.definition
            (queue.tokens.takeWhile fun t => t.1 < boundary)) := by
      rw [spansOf, List.takeWhile_map]
      exact readSpans_eq hentry htokens
    have hleft : (spansOf queue).dropWhile (fun span => span.1 < boundary) =
        spansOf ⟨queue.definition, queue.tokens.dropWhile fun t => t.1 < boundary⟩ :=
      List.dropWhile_map
    rw [List.map_cons, drain, Assembly.drain, bind_assoc, hdefinition]
    refine bind_eq_liftM htaken fun taken => ?_
    rw [ih hlater, hleft, hdefinition]
    cases Assembly.drain boundary later <;> rfl

/-- The tokens that are left still wait. -/
theorem AreQueues.of_drain {boundary : Nat} (h : AreQueues text entries first queues)
    {read : List (Nat × Input)} {rest : List Assembly.Queue}
    (hdrain : Assembly.drain boundary queues = .ok (read, rest)) :
    AreQueues text entries first rest := by
  induction queues generalizing first read rest with
  | nil =>
    cases hdrain
    exact h
  | cons queue later ih =>
    obtain ⟨hqueue, hlater⟩ := areQueues_cons_iff.mp h
    rw [Assembly.drain] at hdrain
    cases htaken : Assembly.readTokens queue.definition
        (queue.tokens.takeWhile fun t => t.1 < boundary) with
    | error rejection =>
      rw [htaken] at hdrain
      cases hdrain
    | ok taken =>
      rw [htaken] at hdrain
      cases hmore : Assembly.drain boundary later with
      | error rejection =>
        rw [hmore] at hdrain
        cases hdrain
      | ok drained =>
        rw [hmore] at hdrain
        cases hdrain
        refine areQueues_cons_iff.mpr ⟨⟨hqueue.entry, fun token ht => ?_⟩, ih hlater hmore⟩
        exact hqueue.tokens token (List.dropWhile_subset _ ht)

/-! ## Closing sets -/

/-- Where what waits begins and ends. -/
def pendingOf (setEnds : List Nat) (pending : Assembly.Pending) : Demux :=
  ⟨pending.queues.map spansOf, setEnds, pending.holds, pending.repeats⟩

/-- **Closing sets does not fail**, and makes of tokens that are cut out of the text what it makes of
tokens that are at hand. -/
theorem closeSets_eq (limit : Nat) (setEnds boundaries : List Nat) :
    ∀ (pending : Assembly.Pending) (done : List InputSet), AreQueues text entries 0 pending.queues →
      closeSets text entries limit boundaries (pendingOf setEnds pending) done =
        liftM (Assembly.closeSets limit boundaries pending done) := by
  -- what carries the induction is that the tokens that wait stand in the text
  induction boundaries with
  | nil => exact fun _ _ _ => rfl
  | cons boundary later ih =>
    intro pending done h
    rw [closeSets, Assembly.closeSets]
    show drain text entries boundary 0 (pending.queues.map spansOf) >>= _ = _
    rw [drain_eq boundary h]
    cases hdrain : Assembly.drain boundary pending.queues with
    | error rejection => rfl
    | ok drained => exact ite_eq_liftM rfl (ih ⟨drained.2, _, _⟩ _ (h.of_drain hdrain))

theorem isAt_of_mem_tokensOf {captures : List Capture} (h : ∀ c ∈ captures, Stands text count c)
    {id : Nat} {token : Assembly.Token} (ht : token ∈ Assembly.tokensOf captures id) :
    IsAt text token := by
  obtain ⟨c, hc, htoken⟩ := List.mem_filterMap.mp ht
  cases c with
  | token alternative slot start stop word =>
    obtain ⟨_, hslice⟩ := h _ hc
    obtain ⟨_, rfl⟩ : alternative = id ∧ (start, word) = token := by simpa using htoken
    rw [IsAt, span_of_slice? hslice]
    exact hslice
  | hold | times | set => cases htoken

/-- **Assembly does not fail**, if the tokens of all captures stand in the text and their numbers are
numbers of entries. -/
theorem assemble_eq (limits : Limits) {captures : List Capture}
    (h : ∀ c ∈ captures, Stands text entries.length c) :
    assemble text entries limits (captures.map markOf) =
      liftM (ChatPad.assemble (entries.map Entry.definition) limits captures) := by
  have hdemux : (demuxOf entries.length captures).sorted =
      pendingOf (Assembly.setEnds captures)
        (Assembly.Pending.ofCaptures (entries.map Entry.definition) captures) := by
    rw [demuxOf, Demux.sorted, pendingOf, Assembly.Pending.ofCaptures]
    congr 1
    refine List.ext_getElem (by simp) fun i _ _ => ?_
    simp only [List.getElem_map, List.getElem_range, List.getElem_zipIdx, Nat.zero_add, spansOf]
    symm
    exact List.map_mergeSort fun _ _ _ _ => rfl
  have hqueues : AreQueues text entries 0
      (Assembly.Pending.ofCaptures (entries.map Entry.definition) captures).queues := by
    intro i queue hi
    simp only [Assembly.Pending.ofCaptures, List.getElem?_map, List.getElem?_zipIdx,
      Option.map_eq_some_iff, Nat.zero_add] at hi
    obtain ⟨_, ⟨_, ⟨entry, hentry, rfl⟩, rfl⟩, rfl⟩ := hi
    refine ⟨⟨entry, (Nat.zero_add i).symm ▸ hentry, rfl⟩, fun token ht => ?_⟩
    rw [List.mem_mergeSort] at ht
    exact isAt_of_mem_tokensOf h ht
  rw [assemble, bind_access (demux_eq h), hdemux]
  exact closeSets_eq _ _ _ _ _ hqueues

end ChatPad.Bytes
