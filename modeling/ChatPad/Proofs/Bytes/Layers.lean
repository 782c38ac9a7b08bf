import ChatPad.Parser
import ChatPad.Proofs.Bytes.Access

/-!
# Layers by byte offset

The layers over a plain parser look into lists and texts as well: the rules compare an input with those
before it and with those after it, and the sides cut letters and separators off the front of a message.

* `Bytes.violation?_eq`: no look at the inputs before or after an input goes past the ends of its set;
* `Bytes.strip_eq`: a letter is cut off where it ends, and so is a separator, which is one byte long;
* `Bytes.checked_eq`, `Bytes.marked_eq`: a layer over a parser that does not fail does not fail.
-/

namespace ChatPad

instance {ε : Type} : LawfulMonad (Logged ε) :=
  LawfulMonad.mk' (Logged ε) (fun a => congrArg (Logged.mk a.value) (List.append_nil a.log))
    (fun _ _ => rfl)
    (fun a f g => congrArg (Logged.mk _) (List.append_assoc a.log (f a.value).log _))

namespace Bytes

/-- Turns messages into sequences, and can fail. -/
abbrev Parser := String → ExceptT Fault (Logged Event) (Option InputSequence)

/-! ## Rules -/

/-- The entries of a list before one with a number. -/
def entriesTo {α : Type} (entries : List α) (number : Nat) : Except Fault (List α) :=
  if number ≤ entries.length then .ok (entries.take number) else .error (.number number)

/-- The entries of a list from one with a number on. -/
def entriesFrom {α : Type} (entries : List α) (number : Nat) : Except Fault (List α) :=
  if number ≤ entries.length then .ok (entries.drop number) else .error (.number number)

/-- The first of some inputs, given with their numbers, that does what one before it does. -/
def repeatedOutcome? (inputs : List Input) : List (Input × Nat) → Except Fault (Option Input)
  | [] => .ok none
  | (input, number) :: later => do
    let earlier ← entriesTo inputs number
    if earlier.any fun e => e.sameOutcome input then .ok (some input)
    else repeatedOutcome? inputs later

/-- The first pair of inputs that passes a test, of which the first is one of some inputs, given with
their numbers. -/
def pair? (test : Input → Input → Bool) (inputs : List Input) :
    List (Input × Nat) → Except Fault (Option (Input × Input))
  | [] => .ok none
  | (a, number) :: later => do
    let after ← entriesFrom inputs (number + 1)
    match after.find? (test a) with
    | some b => .ok (some (a, b))
    | none => pair? test inputs later

/-- The first rule that a set breaks. -/
def setViolation? (rules : Rules) (set : InputSet) : Except Fault (Option Violation) :=
  match (rules.companyViolation? set.inputs).or (Rules.buttonViolation? set.inputs) with
  | some violation => .ok (some violation)
  | none => do
    match ← repeatedOutcome? set.inputs set.inputs.zipIdx with
    | some i => .ok (some (.duplicateOutcome i.text))
    | none =>
      match rules.touchViolation? set.inputs with
      | some violation => .ok (some violation)
      | none => do
        let conflict? ← pair?
          (fun a b => a.button != b.button && rules.isConflict a.button b.button)
          set.inputs set.inputs.zipIdx
        .ok (conflict?.map fun (a, b) => .conflict a.button b.button)

/-- The violation of the first set that breaks a rule. -/
def violation? (rules : Rules) (sequence : InputSequence) : Except Fault (Option Violation) :=
  sequence.sets.findSomeM? (setViolation? rules)

/-- A parser whose sequences also have to keep the rules. -/
def checked (rules : Rules) (base : Parser) : Parser := fun text => do
  match ← base text with
  | none => pure none
  | some sequence =>
    match ← violation? rules sequence with
    | none => pure (some sequence)
    | some violation => liftM (⟨none, [.violated text violation]⟩ : Reply)

theorem repeatedOutcome?_eq (earlier later : List Input) :
    repeatedOutcome? (earlier ++ later) (later.zipIdx earlier.length) =
      .ok (Rules.firstRelated? Input.sameOutcome earlier later) := by
  induction later generalizing earlier with
  | nil => rfl
  | cons input later ih =>
    have hearlier : entriesTo (earlier ++ input :: later) earlier.length = .ok earlier := by
      rw [entriesTo, if_pos (by simp), List.take_left]
    have hlater := ih (earlier ++ [input])
    rw [List.append_assoc, List.singleton_append, List.length_append, List.length_singleton] at hlater
    rw [List.zipIdx_cons, repeatedOutcome?, hearlier, Rules.firstRelated?]
    show (if _ then _ else _) = _
    split
    · rfl
    · exact hlater

theorem pair?_eq (test : Input → Input → Bool) (earlier later : List Input) :
    pair? test (earlier ++ later) (later.zipIdx earlier.length) =
      .ok (Rules.firstPair? test later) := by
  induction later generalizing earlier with
  | nil => rfl
  | cons a later ih =>
    have hafter : entriesFrom (earlier ++ a :: later) (earlier.length + 1) = .ok later := by
      rw [entriesFrom, if_pos (by simp), List.drop_append]
      simp
    have hlater := ih (earlier ++ [a])
    rw [List.append_assoc, List.singleton_append, List.length_append, List.length_singleton] at hlater
    rw [List.zipIdx_cons, pair?, hafter, Rules.firstPair?]
    show (match later.find? (test a) with | some b => _ | none => _) = _
    cases later.find? (test a) with
    | some b => rfl
    | none => exact hlater

/-- **Checking a set looks past neither of its ends.** -/
theorem setViolation?_eq (rules : Rules) (set : InputSet) :
    setViolation? rules set = .ok (rules.setViolation? set) := by
  have hrepeated := repeatedOutcome?_eq [] set.inputs
  have hpair := pair?_eq (fun a b => a.button != b.button && rules.isConflict a.button b.button) []
    set.inputs
  simp only [List.nil_append, List.length_nil] at hrepeated hpair
  rw [setViolation?, Rules.setViolation?, Rules.outcomeViolation?, Rules.conflictViolation?, hrepeated,
    hpair]
  cases rules.companyViolation? set.inputs with
  | some violation => rfl
  | none =>
    cases Rules.buttonViolation? set.inputs with
    | some violation => rfl
    | none =>
      cases Rules.firstRelated? Input.sameOutcome [] set.inputs with
      | some i => rfl
      | none => cases rules.touchViolation? set.inputs <;> rfl

theorem violation?_eq (rules : Rules) (sequence : InputSequence) :
    violation? rules sequence = .ok (rules.violation? sequence) := by
  rw [violation?, funext (setViolation?_eq rules)]
  exact List.findSomeM?_pure

/-- **A layer of rules over a parser that does not fail does not fail.** -/
theorem checked_eq (rules : Rules) {base : Parser} {base' : ChatPad.Parser}
    (hbase : ∀ text, base text = liftM (base' text)) (text : String) :
    checked rules base text = liftM (rules.checked base' text) := by
  refine bind_eq_liftM (hbase text) fun sequence? => ?_
  cases sequence? with
  | none => rfl
  | some sequence =>
    show _ >>= _ = liftM (match rules.violation? sequence with | none => _ | some violation => _)
    rw [bind_access (violation?_eq rules sequence)]
    cases rules.violation? sequence <;> rfl

/-! ## Sides -/

/-- Where a separator at the front of a text ends. -/
def separatorEnd : List Char → Nat
  | [] => 0
  | c :: _ => if SidePrefixes.isSeparator c then 1 else 0

section Program

variable {m : Type → Type} [Monad m] {α : Type} (p : SidePrefixes)
  (recognize : String → ExceptT Fault m (Option α))

/-- Takes side letters off the front of a text until the rest is recognized.  It fails if it goes on
for more rounds than it has. -/
def strip : Nat → List Char → ExceptT Fault m (Option (α × Option Side))
  | 0, _ => throw .rounds
  | rounds + 1, text =>
    match text.head?.bind fun c => (p.sideOf c).map fun side => (c, side) with
    | none => pure none
    | some (c, side) => do
      let rest ← textFrom text c.utf8Size
      let rest ← textFrom rest (separatorEnd rest)
      match ← recognize (String.ofList rest) with
      | some value => pure (some (value, some side))
      | none => strip rounds rest

/-- Recognizes a text as a whole, or else what remains after the fewest side letters. -/
def disambiguate (text : String) : ExceptT Fault m (Option (α × Option Side)) := do
  match ← recognize text with
  | some value => pure (some (value, none))
  | none =>
    if p.allowDirected then strip p recognize (text.toList.length + 1) text.toList else pure none

end Program

/-- A parser that also accepts messages with side letters in front. -/
def marked (p : SidePrefixes) (base : Parser) : Parser := fun text => do
  match ← disambiguate p base text with
  | none => pure none
  | some (sequence, side) =>
    pure (some (sequence.mapSets fun set => set.add (.sideMarker side side.isSome)))

theorem textFrom_cons (c : Char) (rest : List Char) : textFrom (c :: rest) c.utf8Size = .ok rest :=
  textFrom_append [c] rest

/-- A separator is one byte long. -/
theorem textFrom_separatorEnd (rest : List Char) :
    textFrom rest (separatorEnd rest) = .ok (SidePrefixes.dropSeparator rest) := by
  cases rest with
  | nil => rfl
  | cons c rest =>
    rw [separatorEnd, SidePrefixes.dropSeparator]
    split
    · rename_i hseparator
      have hsize : c.utf8Size = 1 := by
        simp only [SidePrefixes.isSeparator, Bool.or_eq_true, beq_iff_eq] at hseparator
        rcases hseparator with ((rfl | rfl) | rfl) | rfl <;> rfl
      rw [← hsize]
      exact textFrom_cons c rest
    · exact textFrom_append [] _

section Sides

variable {m : Type → Type} [Monad m] [LawfulMonad m] {α : Type} {p : SidePrefixes}
  {recognize : String → ExceptT Fault m (Option α)} {recognize' : String → m (Option α)}

/-- **Taking letters off does not fail**, and there are enough rounds for it: each takes a letter. -/
theorem strip_eq (hrecognize : ∀ text, recognize text = liftM (recognize' text)) (rounds : Nat) :
    ∀ text : List Char, text.length < rounds →
      strip p recognize rounds text = liftM (p.strip recognize' text) := by
  induction rounds with
  | zero => exact fun _ h => absurd h (Nat.not_lt_zero _)
  | succ rounds ih =>
    intro text hrounds
    cases text with
    | nil =>
      rw [SidePrefixes.strip]
      exact (liftM_pure none).symm
    | cons c rest =>
      rw [strip, SidePrefixes.strip, List.head?_cons, Option.bind_some]
      cases p.sideOf c with
      | none => exact (liftM_pure none).symm
      | some side =>
        -- the letter is cut off, then the separator, and the rest is tried
        show liftM (textFrom (c :: rest) c.utf8Size) >>= _ = _
        rw [bind_access (textFrom_cons c rest), bind_access (textFrom_separatorEnd rest)]
        refine bind_eq_liftM (hrecognize _) fun value? => ?_
        cases value? with
        | some value => exact (liftM_pure _).symm
        | none =>
          have := SidePrefixes.length_dropSeparator_le rest
          exact ih _ (by simp only [List.length_cons] at hrounds; omega)

theorem disambiguate_eq (hrecognize : ∀ text, recognize text = liftM (recognize' text))
    (text : String) : disambiguate p recognize text = liftM (p.disambiguate recognize' text) := by
  refine bind_eq_liftM (hrecognize text) fun value? => ?_
  cases value? with
  | some value => exact (liftM_pure _).symm
  | none =>
    exact ite_eq_liftM (strip_eq hrecognize _ _ (Nat.lt_succ_self _)) (liftM_pure none).symm

end Sides

/-- **A layer of sides over a parser that does not fail does not fail.** -/
theorem marked_eq (p : SidePrefixes) {base : Parser} {base' : ChatPad.Parser}
    (hbase : ∀ text, base text = liftM (base' text)) (text : String) :
    marked p base text = liftM (p.marked base' text) := by
  refine bind_eq_liftM (disambiguate_eq hbase text) fun found => ?_
  cases found with
  | none => rfl
  | some found => rfl

end Bytes

end ChatPad
