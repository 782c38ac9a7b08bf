import ChatPad.Proofs.Assembly.Queues
import ChatPad.Proofs.Message.Language

/-!
# Assembly agrees with its reference

Assembly closes one set after the other.  Before each of them the queues hold what the remaining
sets have recorded, in the order of the message, and nothing else; that is the invariant, and closing
a set takes exactly the captures of that set.

* `drain_recorded`: what is taken from the queues for one set, or why it is rejected;
* `closeSets_recorded`: the run from any set to the end;
* `Grammar.assemble_eq_assembled`: the captures of a match are assembled as the reference says.
-/

namespace ChatPad

namespace Assembly

variable {definitions : List Definition} {limits : Limits}

/-! ## Reading the tokens of a set -/

/-- Reads tokens, each by its own definition: the first rejection, or all inputs with their
offsets. -/
def readPlaced (definitions : List Definition) (tokens : List PlacedToken) :
    Except Rejection (List (Nat × Input)) :=
  match tokens.findSome? (PlacedToken.rejection? definitions) with
  | some rejection => .error rejection
  | none => .ok (tokens.filterMap fun t => (t.input? definitions).map (t.start, ·))

theorem readPlaced_append (tokens more : List PlacedToken) :
    readPlaced definitions (tokens ++ more) =
      (readPlaced definitions tokens).bind fun read =>
        (readPlaced definitions more).map (read ++ ·) := by
  rw [readPlaced, List.findSome?_append, List.filterMap_append, readPlaced, readPlaced]
  cases tokens.findSome? (PlacedToken.rejection? definitions) with
  | some rejection => rfl
  | none => cases more.findSome? (PlacedToken.rejection? definitions) <;> rfl

/-- A queue reads its tokens as they are read one by one. -/
theorem readTokens_waiting {d : Definition} {tokens : List PlacedToken}
    (howner : ∀ t ∈ tokens, definitions[t.definition]? = some d) :
    readTokens d (tokens.map PlacedToken.waiting) = readPlaced definitions tokens := by
  induction tokens with
  | nil => rfl
  | cons t tokens ih =>
    have ht := howner t List.mem_cons_self
    rw [List.map_cons, PlacedToken.waiting, readTokens,
      ih fun t' ht' => howner t' (List.mem_cons_of_mem t ht')]
    have hinput : t.input? definitions = d.read (String.ofList t.word) := by
      rw [PlacedToken.input?, ht]
      rfl
    have hrejection : t.rejection? definitions =
        if (d.read (String.ofList t.word)).isNone then
          some (.tokenRejected d.description (String.ofList t.word) t.start)
        else none := by
      rw [PlacedToken.rejection?, ht]
      rfl
    rw [readPlaced, readPlaced, List.findSome?_cons, List.filterMap_cons, hinput, hrejection]
    cases d.read (String.ofList t.word) with
    | none => rfl
    | some input =>
      show Except.map _ _ = _
      cases tokens.findSome? (PlacedToken.rejection? definitions) <;> rfl

/-- **Draining takes the tokens of one set**, queue by queue, and leaves those of the sets after
it. -/
theorem drain_queues {tokens : List PlacedToken} {all rest : List Capture} {boundary : Nat}
    (htake : ∀ id, ((tokensOf all id).takeWhile fun t => t.1 < boundary) =
      (tokens.filter fun t => t.definition = id).map PlacedToken.waiting)
    (hdrop : ∀ id, ((tokensOf all id).dropWhile fun t => t.1 < boundary) = tokensOf rest id)
    (numbered : List (Definition × Nat))
    (hnumbered : ∀ p ∈ numbered, definitions[p.2]? = some p.1) :
    drain boundary (numbered.map fun p => ⟨p.1, tokensOf all p.2⟩) =
      (readPlaced definitions
        (numbered.flatMap fun p => tokens.filter fun t => t.definition = p.2)).map
        fun read => (read, numbered.map fun p => ⟨p.1, tokensOf rest p.2⟩) := by
  induction numbered with
  | nil => rfl
  | cons p numbered ih =>
    have howner : ∀ t ∈ tokens.filter (fun t => t.definition = p.2),
        definitions[t.definition]? = some p.1 := by
      intro t ht
      rw [of_decide_eq_true (List.mem_filter.mp ht).2]
      exact hnumbered p List.mem_cons_self
    rw [List.map_cons, drain, htake, hdrop, readTokens_waiting howner,
      ih fun q hq => hnumbered q (List.mem_cons_of_mem p hq), List.flatMap_cons, readPlaced_append]
    cases readPlaced definitions (tokens.filter fun t => t.definition = p.2) with
    | error rejection => rfl
    | ok taken =>
      cases readPlaced definitions
        (numbered.flatMap fun p => tokens.filter fun t => t.definition = p.2) <;> rfl

/-! ## Closing one set -/

variable {set : ReadSet} {rest : List Capture} {offset high : Nat}

/-- What draining gives for a set, with the captures of later sets behind it. -/
theorem drain_recorded (hset : set.Valid definitions limits)
    (hrest : Capture.InRow (offset + Text.byteLength set.text) rest high) :
    drain (offset + Text.byteLength set.text)
        (Pending.recorded definitions (set.captures offset ++ rest)).queues =
      match set.rejection? definitions offset with
      | some rejection => .error rejection
      | none => .ok ((queued definitions (set.placed offset)).filterMap fun t =>
          (t.input? definitions).map (t.start, ·), (Pending.recorded definitions rest).queues) := by
  have hrow := ReadSet.captures_inRow hset offset
  have htake (id : Nat) := (tokensOf_isKind id).takeWhile_append hrow hrest
  have hdrop (id : Nat) := (tokensOf_isKind id).dropWhile_append hrow hrest
  simp only [tokensOf_captures] at htake
  have hnumbered : ∀ p ∈ definitions.zipIdx, definitions[p.2]? = some p.1 :=
    fun p hp => List.mem_zipIdx_iff_getElem?.mp hp
  rw [ReadSet.rejection?_eq_findSome? hset]
  refine (drain_queues htake hdrop definitions.zipIdx hnumbered).trans ?_
  show (readPlaced definitions (queued definitions (set.placed offset))).map _ = _
  rw [readPlaced]
  cases (queued definitions (set.placed offset)).findSome? (PlacedToken.rejection? definitions) <;> rfl

/-- The first of a queue is next exactly if the row before the boundary has given it something. -/
theorem isNext_head? {α : Type} {of : List Capture → List α} {key : α → Nat} {l l' : List Capture}
    {low middle high : Nat} (h : IsKind of key) (hrow : Capture.InRow low l middle)
    (hrow' : Capture.InRow middle l' high) :
    isNext middle ((of (l ++ l')).head?.map key) = !(of l).isEmpty := by
  rw [h.append]
  cases hl : of l with
  | nil =>
    have hafter := h.not_lt_boundary hrow'
    rw [List.nil_append]
    cases hl' : of l' with
    | nil => rfl
    | cons a rest =>
      rw [hl'] at hafter
      exact decide_eq_false (hafter a List.mem_cons_self)
  | cons a rest =>
    have ha : a ∈ of l := by
      rw [hl]
      exact List.mem_cons_self
    exact decide_eq_true (h.bounds hrow ha).2

/-- The hold marker of a set is the next one, if the set has one. -/
theorem holds_recorded (hset : set.Valid definitions limits)
    (hrest : Capture.InRow (offset + Text.byteLength set.text) rest high) :
    let pending := Pending.recorded definitions (set.captures offset ++ rest)
    isNext (offset + Text.byteLength set.text) pending.holds.head? = set.held ∧
      (if set.held then pending.holds.tail else pending.holds) = holdsOf rest := by
  intro pending
  have hrow := ReadSet.captures_inRow hset offset
  have hnext := isNext_head? holdsOf_isKind hrow hrest
  rw [Option.map_id, id] at hnext
  obtain ⟨place, hplace⟩ := holdsOf_captures set offset
  show isNext _ (holdsOf (set.captures offset ++ rest)).head? = _ ∧
    (if _ then (holdsOf (set.captures offset ++ rest)).tail else holdsOf _) = _
  rw [hnext, holdsOf_isKind.append, hplace]
  cases set.held with
  | false => exact ⟨rfl, rfl⟩
  | true => exact ⟨rfl, rfl⟩

/-- The repeat digit of a set is the next one, if the set has one. -/
theorem repeats_recorded (hset : set.Valid definitions limits)
    (hrest : Capture.InRow (offset + Text.byteLength set.text) rest high) :
    let pending := Pending.recorded definitions (set.captures offset ++ rest)
    let repeated := isNext (offset + Text.byteLength set.text) (pending.repeats.head?.map Prod.fst)
    (if repeated then (pending.repeats.head?.map Prod.snd).getD 1 else 1) = set.repetitions ∧
      (if repeated then pending.repeats.tail else pending.repeats) = repeatsOf rest := by
  intro pending repeated
  have hrow := ReadSet.captures_inRow hset offset
  have hnext := isNext_head? repeatsOf_isKind hrow hrest
  have hrepeated : repeated = !(repeatsOf (set.captures offset)).isEmpty := hnext
  obtain ⟨place, hplace⟩ := repeatsOf_captures set offset
  have hrepeats : pending.repeats = set.times.toList.map (place, ·) ++ repeatsOf rest := by
    rw [← hplace]
    exact repeatsOf_isKind.append _ _
  rw [hrepeated, hrepeats, hplace, ReadSet.repetitions]
  cases set.times with
  | none => exact ⟨rfl, rfl⟩
  | some count => exact ⟨rfl, rfl⟩

/-- **Closing a set**: it is rejected, or its inputs are added as often as it is repeated, and what
is left is what the later sets have recorded. -/
theorem closeSets_set (hset : set.Valid definitions limits)
    (hrest : Capture.InRow (offset + Text.byteLength set.text) rest high) (limit : Nat)
    (ends : List Nat) (done : List InputSet) :
    closeSets limit ((offset + Text.byteLength set.text) :: ends)
        (Pending.recorded definitions (set.captures offset ++ rest)) done =
      match set.rejection? definitions offset with
      | some rejection => .error rejection
      | none =>
        let done := done ++ List.replicate set.repetitions ⟨set.inputs definitions offset⟩
        if limit < done.length then .error (.sequenceTooLong done.length limit)
        else closeSets limit ends (Pending.recorded definitions rest) done := by
  have hdrain := drain_recorded hset hrest
  obtain ⟨hheld, hholds⟩ := holds_recorded hset hrest
  obtain ⟨hcount, hrepeats⟩ := repeats_recorded hset hrest
  generalize Pending.recorded definitions (set.captures offset ++ rest) = pending at *
  rw [closeSets, hdrain]
  cases set.rejection? definitions offset with
  | some rejection => rfl
  | none =>
    have hinputs : set.inputs definitions offset =
        if set.held then (set.placed offset).filterMap (PlacedToken.input? definitions) ++ [Input.hold]
        else (set.placed offset).filterMap (PlacedToken.input? definitions) := by
      rw [ReadSet.inputs]
      cases set.held with
      | false => exact List.append_nil _
      | true => rfl
    have htyped := ReadSet.mergeSort_queued hset offset (PlacedToken.input? definitions)
    simp only [hheld, hholds, hcount, hrepeats, hinputs, ← htyped]
    rfl

/-! ## The whole run -/

/-- **The run.**  From any set on, what is still to come is what the reference makes of it. -/
theorem closeSets_recorded (limit : Nat) (sets : Reading) :
    ∀ (offset : Nat) (done : List InputSet), (∀ set ∈ sets, set.Valid definitions limits) →
      closeSets limit (setEndsOf (Reading.captures offset sets))
          (Pending.recorded definitions (Reading.captures offset sets)) done =
        (Reading.assembled definitions limit offset done.length sets).map fun later =>
          ⟨done ++ later⟩ := by
  induction sets with
  | nil =>
    intro offset done _
    have hdone : done ++ [] = done := List.append_nil done
    show Except.ok (InputSequence.mk done) = Except.ok (InputSequence.mk (done ++ []))
    rw [hdone]
  | cons set later ih =>
    intro offset done hvalid
    have hset := hvalid set List.mem_cons_self
    have hlater : ∀ other ∈ later, other.Valid definitions limits :=
      fun other hother => hvalid other (List.mem_cons_of_mem set hother)
    have hrest := Reading.captures_inRow hlater (offset + Text.byteLength set.text)
    have hends : setEndsOf (Reading.captures offset (set :: later)) =
        (offset + Text.byteLength set.text) ::
          setEndsOf (Reading.captures (offset + Text.byteLength set.text) later) := by
      rw [Reading.captures, setEndsOf, List.filterMap_append]
      exact congrArg (· ++ _) (setEndsOf_captures set offset)
    rw [hends, Reading.captures, closeSets_set hset hrest, Reading.assembled]
    cases set.rejection? definitions offset with
    | some rejection => rfl
    | none =>
      have htotal (inputs : InputSet) :
          (done ++ List.replicate set.repetitions inputs).length = done.length + set.repetitions := by
        rw [List.length_append, List.length_replicate]
      simp only [ih _ _ hlater, htotal]
      by_cases hlimit : limit < done.length + set.repetitions
      · rw [if_pos hlimit, if_pos hlimit]
        rfl
      · rw [if_neg hlimit, if_neg hlimit]
        cases Reading.assembled definitions limit (offset + Text.byteLength set.text)
            (done.length + set.repetitions) later with
        | error rejection => rfl
        | ok rest =>
          have happend := List.append_assoc done
            (List.replicate set.repetitions ⟨set.inputs definitions offset⟩) rest
          exact congrArg (fun sets => Except.ok (InputSequence.mk sets)) happend

end Assembly

variable {definitions : List Definition} {limits : Limits}

/-- The captures of a reading are assembled as the reference says. -/
theorem assemble_captures {sets : Reading} (hsets : ∀ set ∈ sets, set.Valid definitions limits) :
    assemble definitions limits (Reading.captures 0 sets) =
      (Reading.assembled definitions limits.sequenceLength 0 0 sets).map InputSequence.mk := by
  have hrow := Reading.captures_inRow hsets 0
  rw [assemble, Assembly.setEnds_eq_setEndsOf hrow, Assembly.Pending.ofCaptures_eq_recorded _ hrow]
  exact Assembly.closeSets_recorded limits.sequenceLength sets 0 [] hsets

/-- **A match is assembled as the reference says.**  What it has recorded is the trace of exactly one
reading of the text, and assembly makes of it what the reference makes of that reading. -/
theorem Grammar.assemble_eq_assembled {g : Grammar} (h : compile definitions limits = .ok g)
    {text : List Char} {captures : List Capture} (hmatch : g.captures? text = some captures) :
    ∃ sets, Reads definitions limits text sets ∧ captures = Reading.captures 0 sets ∧
      (∀ other, captures = Reading.captures 0 other → other = sets) ∧
      assemble definitions limits captures =
        (Reading.assembled definitions limits.sequenceLength 0 0 sets).map InputSequence.mk := by
  have hmem : captures ∈ g.exhaustive.derivations text := by
    rw [captures?_eq_head? h] at hmatch
    exact List.mem_of_head? hmatch
  obtain ⟨sets, hreads, hcaptures⟩ := (mem_derivations_iff h).mp hmem
  refine ⟨sets, hreads, hcaptures, ?_, ?_⟩
  · intro other hother
    exact Reading.captures_injective 0 (hother.symm.trans hcaptures)
  · rw [hcaptures]
    exact assemble_captures hreads.valid

/-- A set with all that a set can have, and behind it one whose two tokens are both refused: the
later one is reported, because its definition comes first. -/
theorem Grammar.assemble_eq_assembled_refused :
    let definitions : List Definition := [.button "b" "B" true,
      ⟨.char 'x', fun _ => none, "x"⟩, ⟨.char 'y', fun _ => none, "y"⟩, .button "r" "R" false]
    let limits : Limits := { sequenceLength := 4 }
    let g : Grammar :=
      ⟨alternativesOf definitions, .ofAlternatives (alternativesOf definitions), limits⟩
    let captures := Reading.captures 0 [⟨⟨[⟨3, ['r']⟩], true, some 2⟩, ⟨0, ['b']⟩⟩,
      ⟨⟨[⟨1, ['x']⟩], false, none⟩, ⟨2, ['y']⟩⟩]
    compile definitions limits = .ok g ∧ g.captures? "b+r-2y+x".toList = some captures ∧
      assemble definitions limits captures = .error (.tokenRejected "x" "x" 7) := by
  intro definitions limits g captures
  have hcompile : compile definitions limits = .ok g := rfl
  have hmatch : g.captures? "b+r-2y+x".toList = some captures := rfl
  obtain ⟨sets, _, _, hunique, hassemble⟩ := assemble_eq_assembled hcompile hmatch
  rw [← hunique _ rfl] at hassemble
  exact ⟨hcompile, hmatch, hassemble⟩

end ChatPad
