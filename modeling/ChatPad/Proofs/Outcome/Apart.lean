import ChatPad.Proofs.Outcome.Untyped
import Mathlib.Algebra.Group.Nat.Defs

/-!
# Strengths that lie apart

Two strengths do the same if their rounded distance is below `Single.epsilonUnits`.  That is no
equivalence on all numbers: small steps add up.  It is one as soon as different strengths are far from
each other, and then doing the same is a matter of one input at a time: `Input.outcome` is what an
input does, without the sign of a zero and without whether its side was spelled out.

* `Single.isFar_of_gap`: rounding keeps apart what is apart by that much;
* `Input.sameOutcome_iff_outcome_eq`: for inputs that lie apart, the same outcome is an equal
  `Input.outcome`.
-/

namespace ChatPad

namespace Single

/-! ## Rounding -/

/-- Rounding takes one of the two multiples of the spacing next to a count. -/
theorem exists_roundUnits_eq (num : Nat) : ∃ count, num / spacing num ≤ count ∧
    count ≤ num / spacing num + 1 ∧ roundUnits num 1 = count * spacing num := by
  rw [roundUnits, Nat.div_one, Nat.one_mul]
  refine ⟨_, ?_, ?_, rfl⟩
  · split
    · exact Nat.le_succ _
    · exact Nat.le_refl _
  · split
    · exact Nat.le_refl _
    · exact Nat.le_succ _

/-- Rounding does not pass a power of two on its way down, as that is a multiple of the spacing. -/
theorem two_pow_le_roundUnits {bits num : Nat} (h : 2 ^ bits ≤ num) :
    2 ^ bits ≤ roundUnits num 1 := by
  have hnum : num ≠ 0 := Nat.ne_of_gt (Nat.lt_of_lt_of_le (Nat.two_pow_pos bits) h)
  have hbits : bits ≤ num.log2 := (Nat.le_log2 hnum).mpr h
  have hspacing : spacing num = 2 ^ (num.log2 + 1 - 24) := rfl
  have hmultiple : 2 ^ num.log2 = 2 ^ (num.log2 - (num.log2 + 1 - 24)) * spacing num := by
    rw [hspacing, ← Nat.pow_add, Nat.sub_add_cancel (by omega)]
  have hdown : 2 ^ (num.log2 - (num.log2 + 1 - 24)) ≤ num / spacing num :=
    (Nat.le_div_iff_mul_le (Nat.two_pow_pos _)).mpr (hmultiple ▸ Nat.log2_self_le hnum)
  obtain ⟨count, hcount, -, hround⟩ := exists_roundUnits_eq num
  calc 2 ^ bits ≤ 2 ^ num.log2 := Nat.pow_le_pow_right Nat.two_pos hbits
    _ = 2 ^ (num.log2 - (num.log2 + 1 - 24)) * spacing num := hmultiple
    _ ≤ count * spacing num := Nat.mul_le_mul_right _ (Nat.le_trans hdown hcount)
    _ = roundUnits num 1 := hround.symm

/-- Rounding at most doubles. -/
theorem roundUnits_le (num : Nat) : roundUnits num 1 ≤ 2 * num := by
  by_cases hnum : num = 0
  · subst hnum
    decide
  · have hspacing : spacing num ≤ num :=
      Nat.le_trans (Nat.pow_le_pow_right Nat.two_pos (by omega)) (Nat.log2_self_le hnum)
    have hdown : num / spacing num * spacing num ≤ num := Nat.div_mul_le_self _ _
    obtain ⟨count, -, hcount, hround⟩ := exists_roundUnits_eq num
    calc roundUnits num 1 = count * spacing num := hround
      _ ≤ (num / spacing num + 1) * spacing num := Nat.mul_le_mul_right _ hcount
      _ ≤ 2 * num := by
        rw [Nat.add_mul, Nat.one_mul]
        omega

/-! ## Fractions -/

/-- How many units a number counts, whatever its sign. -/
def units : Single → Nat
  | finite _ count => count
  | _ => 0

/-- The number without its sign. -/
def unsigned (s : Single) : Single := .finite false s.units

variable {x y : Single}

theorem units_le (hx : x.isFraction = true) : x.units ≤ unitsPerOne := by
  cases x with
  | nan => cases hx
  | infinite => cases hx
  | finite negative count => exact of_decide_eq_true (Bool.and_eq_true_iff.mp hx).1

theorem isFraction_unsigned (hx : x.isFraction = true) : x.unsigned.isFraction = true := by
  rw [unsigned, isFraction, decide_eq_true (units_le hx)]
  rfl

/-- The exact distance of two numbers, in units. -/
def gap (x y : Single) : Nat := max x.units y.units - min x.units y.units

/-- Between fractions no sign counts: the only one below zero is a zero. -/
theorem distance_eq (hx : x.isFraction = true) (hy : y.isFraction = true) :
    x.distance y = .finite false (roundUnits (x.gap y) 1) := by
  have hgap : x.gap y ≤ unitsPerOne :=
    Nat.le_trans (Nat.sub_le _ _) (Nat.max_le.mpr ⟨units_le hx, units_le hy⟩)
  have hsmall : roundUnits (x.gap y) 1 < overflow :=
    calc _ ≤ 2 * x.gap y := roundUnits_le _
      _ ≤ 2 * unitsPerOne := Nat.mul_le_mul_left 2 hgap
      _ < overflow := by decide +kernel
  cases x with
  | nan => cases hx
  | infinite => cases hx
  | finite n a =>
    cases y with
    | nan => cases hy
    | infinite => cases hy
    | finite m b =>
      have hsigns : (if n = m then max a b - min a b else a + b) = max a b - min a b := by
        rw [isFraction, Bool.and_eq_true, Bool.or_eq_true, Bool.not_eq_true', beq_iff_eq] at hx hy
        split
        · rfl
        · cases n <;> cases m <;> simp_all
      rw [distance, hsigns]
      exact if_pos hsmall

/-! ## Apart -/

/-- Whether the rounded distance of two numbers is at least `2 ^ (-23)`. -/
def isFar (x y : Single) : Bool :=
  match distance x y with
  | finite _ count => epsilonUnits ≤ count
  | _ => false

/-- Numbers that are equal or far from each other. -/
def Apart (x y : Single) : Prop := x.equal y = true ∨ x.isFar y = true

instance (x y : Single) : Decidable (x.Apart y) := inferInstanceAs (Decidable (_ ∨ _))

/-- **Rounding keeps apart** what is apart by `2 ^ (-23)`. -/
theorem isFar_of_gap (hx : x.isFraction = true) (hy : y.isFraction = true)
    (h : epsilonUnits ≤ x.gap y) : x.isFar y = true := by
  rw [isFar, distance_eq hx hy]
  exact decide_eq_true (two_pow_le_roundUnits h)

theorem units_eq_of_equal (h : x.equal y = true) : x.units = y.units := by
  cases x with
  | nan => cases h
  | infinite =>
    cases y with
    | infinite => rfl
    | _ => cases h
  | finite =>
    cases y with
    | finite => exact beq_iff_eq.mp (Bool.and_eq_true_iff.mp h).1
    | _ => cases h

/-- Close numbers that lie apart count as many units. -/
theorem units_eq_of_isClose (happart : x.Apart y) (hclose : x.isClose y = true) :
    x.units = y.units := by
  refine happart.elim units_eq_of_equal fun hfar => ?_
  rw [isClose] at hclose
  rw [isFar] at hfar
  split at hclose
  · rename_i hdistance
    rw [hdistance] at hfar
    exact absurd (of_decide_eq_true hclose) (Nat.not_lt.mpr (of_decide_eq_true hfar))
  · cases hclose

theorem distance_comm (x y : Single) : x.distance y = y.distance x := by
  cases x with
  | finite n a =>
    cases y with
    | finite m b =>
      simp only [distance, Nat.max_comm a b, Nat.min_comm a b, Nat.add_comm a b, eq_comm (a := n)]
    | _ => rfl
  | infinite n =>
    cases y with
    | infinite m => simp only [distance, eq_comm (a := n)]
    | _ => rfl
  | nan => cases y <;> rfl

theorem equal_comm (x y : Single) : x.equal y = y.equal x := by
  cases x with
  | finite n a =>
    cases y with
    | finite m b =>
      by_cases hunits : a = b
      · subst hunits
        simp only [equal, Bool.beq_comm (a := n)]
      · simp only [equal, beq_false_of_ne hunits, beq_false_of_ne (Ne.symm hunits), Bool.false_and]
    | _ => rfl
  | infinite n =>
    cases y with
    | infinite m => exact Bool.beq_comm
    | _ => rfl
  | nan => cases y <;> rfl

theorem Apart.symm (h : x.Apart y) : y.Apart x := by
  rw [Apart, equal_comm, isFar, distance_comm]
  exact h

end Single

/-! ## What an input does -/

namespace InputKind

/-- The kind without the sign of its strength, and without whether its side was spelled out. -/
def outcome : InputKind → InputKind
  | .analog strength =>
    .analog ⟨strength.value.unsigned, Single.isFraction_unsigned strength.isFraction⟩
  | .side half _ => .side half false
  | kind => kind

/-- Signs of strengths and spelled sides do not count. -/
theorem sameOutcome_outcome (a b : InputKind) :
    a.outcome.sameOutcome b.outcome = a.sameOutcome b := by
  cases a with
  | analog x =>
    cases b with
    | analog y =>
      have hdistance : x.value.unsigned.distance y.value.unsigned = x.value.distance y.value := by
        rw [Single.distance_eq x.isFraction y.isFraction, Single.distance_eq
          (Single.isFraction_unsigned x.isFraction) (Single.isFraction_unsigned y.isFraction)]
        rfl
      show x.value.unsigned.isClose y.value.unsigned = x.value.isClose y.value
      rw [Single.isClose, hdistance, Single.isClose]
    | _ => rfl
  | _ => cases b <;> rfl

end InputKind

namespace Input

/-- What an input does, and to which button. -/
def outcome (i : Input) : String × InputKind := (i.button, i.kind.outcome)

variable {a b : Input}

/-- Inputs that do the same in every part do the same to any other. -/
theorem sameOutcome_congr {c : Input} (h : a.outcome = b.outcome) :
    a.sameOutcome c = b.sameOutcome c := by
  obtain ⟨hbutton, hkind⟩ := Prod.mk.inj h
  rw [sameOutcome, sameOutcome, hbutton, ← InputKind.sameOutcome_outcome, hkind,
    InputKind.sameOutcome_outcome]

theorem sameOutcome_self (a : Input) : a.sameOutcome a = true :=
  sameOutcome_of_untyped_eq rfl

/-- Inputs whose strengths, if they have any, are equal or far from each other. -/
def ApartFrom (a b : Input) : Prop := ∀ x ∈ a.strength?, ∀ y ∈ b.strength?, x.Apart y

instance (a b : Input) : Decidable (a.ApartFrom b) :=
  inferInstanceAs (Decidable (∀ x ∈ a.strength?, ∀ y ∈ b.strength?, x.Apart y))

theorem ApartFrom.symm (h : a.ApartFrom b) : b.ApartFrom a :=
  fun y hy x hx => (h x hx y hy).symm

theorem kind_outcome_eq (happart : a.ApartFrom b) (hsame : a.kind.sameOutcome b.kind = true) :
    a.kind.outcome = b.kind.outcome := by
  rw [ApartFrom, strength?, strength?] at happart
  generalize a.kind = kind at *
  generalize b.kind = kind' at *
  cases kind with
  | analog x =>
    cases kind' with
    | analog y =>
      have hunits := Single.units_eq_of_isClose (happart _ rfl _ rfl) hsame
      have hunsigned : x.value.unsigned = y.value.unsigned :=
        congrArg (Single.finite false) hunits
      simp only [InputKind.outcome, hunsigned]
    | _ => cases hsame
  | side left direct =>
    cases kind' with
    | side right direct' => rw [InputKind.outcome, InputKind.outcome, eq_of_beq hsame]
    | _ => cases hsame
  | _ =>
    obtain rfl := eq_of_beq hsame
    rfl

/-- **Inputs that lie apart have the same outcome if and only if they do the same in every part.** -/
theorem sameOutcome_iff_outcome_eq (happart : a.button = b.button → a.ApartFrom b) :
    a.sameOutcome b = true ↔ a.outcome = b.outcome := by
  constructor
  · intro hsame
    obtain ⟨hbutton, hkind⟩ := Bool.and_eq_true_iff.mp hsame
    have hbutton := eq_of_beq hbutton
    exact Prod.ext hbutton (kind_outcome_eq (happart hbutton) hkind)
  · intro houtcome
    rw [sameOutcome_congr houtcome]
    exact sameOutcome_self b

end Input

/-! ## Sets -/

namespace InputSet

/-- Strengths of one button are equal or far from each other. -/
def ApartFrom (s t : InputSet) : Prop :=
  ∀ a ∈ s.inputs, ∀ b ∈ t.inputs, a.button = b.button → a.ApartFrom b

instance (s t : InputSet) : Decidable (s.ApartFrom t) :=
  inferInstanceAs (Decidable (∀ a ∈ s.inputs, ∀ b ∈ t.inputs, a.button = b.button → a.ApartFrom b))

theorem ApartFrom.symm {s t : InputSet} (h : s.ApartFrom t) : t.ApartFrom s :=
  fun b hb a ha hbutton => (h a ha b hb hbutton.symm).symm

end InputSet

end ChatPad
