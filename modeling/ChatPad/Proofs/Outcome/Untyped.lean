import ChatPad.Proofs.Outcome.Pairing
import ChatPad.Rules

/-!
# Inputs without the texts they were typed as

The text that an input was typed as is kept for viewers and for chat; what the input does does not
depend on it.

* `InputSequence.sameOutcome_of_untyped_eq`: sequences that differ in these texts only have the same
  outcome;
* `Rules.violation?_untyped`: the rules make the same of them.
-/

namespace ChatPad

/-- The input without the text it was typed as. -/
def Input.untyped (i : Input) : Input := { i with typed := "" }

def InputSet.untyped (set : InputSet) : InputSet := ⟨set.inputs.map Input.untyped⟩

/-- The sequence without the texts its inputs were typed as. -/
def InputSequence.untyped (sequence : InputSequence) : InputSequence :=
  sequence.mapSets InputSet.untyped

/-! ## Outcomes -/

/-- No distance lies between a fraction and itself. -/
theorem Single.isClose_self {s : Single} (h : s.isFraction = true) : s.isClose s = true := by
  cases s with
  | nan => cases h
  | infinite => cases h
  | finite negative units =>
    rw [isClose, distance, if_pos rfl, Nat.max_self, Nat.min_self, Nat.sub_self]
    decide +kernel

theorem InputKind.sameOutcome_self (kind : InputKind) : kind.sameOutcome kind = true := by
  cases kind with
  | analog strength => exact Single.isClose_self strength.isFraction
  | side side direct => exact beq_self_eq_true side
  | _ => exact beq_self_eq_true _

theorem Input.sameOutcome_of_untyped_eq {a b : Input} (h : a.untyped = b.untyped) :
    a.sameOutcome b = true := by
  have hbutton : a.untyped.button = b.untyped.button := congrArg Input.button h
  have hkind : a.untyped.kind = b.untyped.kind := congrArg Input.kind h
  show (a.untyped.button == b.untyped.button && a.untyped.kind.sameOutcome b.untyped.kind) = true
  rw [hbutton, hkind, InputKind.sameOutcome_self, beq_self_eq_true, Bool.and_true]

/-- Inputs that do the same one by one claim each other. -/
theorem InputSet.claimAll_of_forall₂ {inputs unclaimed : List Input}
    (h : List.Forall₂ (fun a b => Input.sameOutcome a b = true) inputs unclaimed) :
    claimAll inputs unclaimed = true := by
  induction h with
  | nil => rfl
  | cons hab _ ih =>
    rw [claimAll, List.any_cons, hab, Bool.true_or, Bool.true_and, List.eraseP_cons_of_pos hab]
    exact ih

theorem InputSet.sameOutcome_of_untyped_eq {s t : InputSet} (h : s.untyped = t.untyped) :
    s.sameOutcome t = true := by
  have hinputs : s.inputs.map Input.untyped = t.inputs.map Input.untyped :=
    congrArg InputSet.inputs h
  have hsame : List.Forall₂ (fun a b => Input.sameOutcome a b = true) s.inputs t.inputs := by
    rw [← List.forall₂_eq_eq_eq, List.forall₂_map_left_iff, List.forall₂_map_right_iff] at hinputs
    exact hinputs.imp fun _ _ => Input.sameOutcome_of_untyped_eq
  rw [InputSet.sameOutcome, hsame.length_eq, claimAll_of_forall₂ hsame, beq_self_eq_true,
    Bool.and_true]

/-- Each input can claim itself. -/
theorem InputSet.sameOutcome_self (s : InputSet) : s.sameOutcome s = true :=
  sameOutcome_of_untyped_eq rfl

/-- **Sequences that differ in what was typed only have the same outcome.** -/
theorem InputSequence.sameOutcome_of_untyped_eq {a b : InputSequence} (h : a.untyped = b.untyped) :
    a.sameOutcome b = true := by
  have hsets : a.sets.map InputSet.untyped = b.sets.map InputSet.untyped :=
    congrArg InputSequence.sets h
  rw [← List.forall₂_eq_eq_eq, List.forall₂_map_left_iff, List.forall₂_map_right_iff] at hsets
  exact sameOutcome_iff_forall₂.mpr (hsets.imp fun _ _ => InputSet.sameOutcome_of_untyped_eq)

/-! ## Rules -/

namespace Rules

/-- A relation that does not look at what `f` changes finds the same input. -/
theorem firstRelated?_map (related : Input → Input → Bool) {f : Input → Input}
    (hf : ∀ a b, related (f a) (f b) = related a b) (inputs : List Input) :
    ∀ earlier : List Input, firstRelated? related (earlier.map f) (inputs.map f) =
      (firstRelated? related earlier inputs).map f := by
  induction inputs with
  | nil => exact fun _ => rfl
  | cons input later ih =>
    intro earlier
    have hany : ((earlier.map f).any fun e => related e (f input)) =
        earlier.any fun e => related e input := by
      rw [List.any_map]
      exact congrArg earlier.any (funext fun e => hf e input)
    have hmore : (earlier ++ [input]).map f = earlier.map f ++ [f input] := List.map_append
    rw [List.map_cons, firstRelated?, firstRelated?, hany, ← hmore, ih]
    split <;> rfl

theorem firstPair?_map (test : Input → Input → Bool) {f : Input → Input}
    (hf : ∀ a b, test (f a) (f b) = test a b) (inputs : List Input) :
    firstPair? test (inputs.map f) = (firstPair? test inputs).map (Prod.map f f) := by
  induction inputs with
  | nil => rfl
  | cons a later ih =>
    have hfind : (later.map f).find? (test (f a)) = (later.find? (test a)).map f := by
      have htest : test (f a) ∘ f = test a := funext fun b => hf a b
      rw [List.find?_map, htest]
    rw [List.map_cons, firstPair?, firstPair?, hfind, ih]
    cases later.find? (test a) <;> rfl

variable (rules : Rules) (inputs : List Input)

theorem companyViolation?_untyped :
    rules.companyViolation? (inputs.map Input.untyped) = rules.companyViolation? inputs := by
  rw [companyViolation?, companyViolation?, List.length_map, List.find?_map, Option.map_map]
  rfl

theorem buttonViolation?_untyped :
    buttonViolation? (inputs.map Input.untyped) = buttonViolation? inputs := by
  have hrelated := firstRelated?_map (fun a b => a.button == b.button) (f := Input.untyped)
    (fun _ _ => rfl) (inputs.filter fun i => !i.isTouch) []
  rw [buttonViolation?, buttonViolation?, List.filter_map]
  refine (congrArg _ hrelated).trans ?_
  rw [Option.map_map]
  rfl

theorem outcomeViolation?_untyped :
    outcomeViolation? (inputs.map Input.untyped) = outcomeViolation? inputs := by
  have hrelated := firstRelated?_map Input.sameOutcome (f := Input.untyped) (fun _ _ => rfl) inputs []
  rw [outcomeViolation?, outcomeViolation?]
  refine (congrArg _ hrelated).trans ?_
  rw [Option.map_map]
  rfl

theorem touchViolation?_untyped :
    rules.touchViolation? (inputs.map Input.untyped) = rules.touchViolation? inputs := by
  rw [touchViolation?, touchViolation?, List.countP_map]
  rfl

theorem conflictViolation?_untyped :
    rules.conflictViolation? (inputs.map Input.untyped) = rules.conflictViolation? inputs := by
  have hpair := firstPair?_map
    (fun a b => a.button != b.button && rules.isConflict a.button b.button) (f := Input.untyped)
    (fun _ _ => rfl) inputs
  rw [conflictViolation?, conflictViolation?, hpair, Option.map_map]
  rfl

theorem setViolation?_untyped (set : InputSet) :
    rules.setViolation? set.untyped = rules.setViolation? set := by
  rw [setViolation?, setViolation?, InputSet.untyped, companyViolation?_untyped,
    buttonViolation?_untyped, outcomeViolation?_untyped, touchViolation?_untyped,
    conflictViolation?_untyped]

/-- **The rules do not look at what was typed.** -/
theorem violation?_untyped (sequence : InputSequence) :
    rules.violation? sequence.untyped = rules.violation? sequence := by
  rw [violation?, violation?, InputSequence.untyped, InputSequence.mapSets, List.findSome?_map]
  exact congrArg (List.findSome? · sequence.sets) (funext rules.setViolation?_untyped)

end Rules

end ChatPad
