import ChatPad.Rules
import Mathlib.Data.List.Pairwise
import Mathlib.Data.List.Perm.Basic

/-!
# What the rules allow

The rules are checked one after the other, each by going through the inputs of a set in order, and
what is checked first hides what comes later.  `Rules.Allows` says the same without any order: five
conditions on the inputs of a set.

* `setViolation?_eq_none_iff`: a set passes the checks exactly if it is allowed;
* `Allows.perm`: the order of the inputs does not count;
* `breaksFirst_of_setViolation?`: what the violation of a set tells;
* `violation?_verdict`: all of this for a whole sequence.

The check for duplicate outcomes goes through all inputs, but once no button is pressed twice, only
touches can still do the same.
-/

namespace ChatPad

/-! ## The five conditions -/

namespace Rules

/-- A lone button has its set for itself. -/
def LoneAlone (rules : Rules) (inputs : List Input) : Prop :=
  inputs.length ≤ 1 ∨ ∀ i ∈ inputs, i.button ∉ rules.lone

/-- No two inputs that are not touches press the same button. -/
def ButtonsDiffer (inputs : List Input) : Prop :=
  (inputs.filter fun i => !i.isTouch).Pairwise fun a b => a.button ≠ b.button

/-- No two touches do the same. -/
def TouchesDiffer (inputs : List Input) : Prop :=
  (inputs.filter Input.isTouch).Pairwise fun a b => a.sameOutcome b = false

/-- There is one touch at most, unless several are allowed. -/
def TouchesFit (rules : Rules) (inputs : List Input) : Prop :=
  rules.multitouch = true ∨ inputs.countP Input.isTouch ≤ 1

/-- No two different buttons are a pair that conflicts, in either order. -/
def Peaceful (rules : Rules) (inputs : List Input) : Prop :=
  ∀ a ∈ inputs, ∀ b ∈ inputs, a.button ≠ b.button →
    (a.button, b.button) ∉ rules.conflicts ∧ (b.button, a.button) ∉ rules.conflicts

/-- **The inputs of a set may be pressed together.** -/
structure Allows (rules : Rules) (inputs : List Input) : Prop where
  lone : rules.LoneAlone inputs
  buttons : ButtonsDiffer inputs
  touches : TouchesDiffer inputs
  fit : rules.TouchesFit inputs
  peaceful : rules.Peaceful inputs

/-- What a set breaks first, in the order in which the conditions are checked, and the input that
shows it. -/
inductive BreaksFirst (rules : Rules) (inputs : List Input) : Violation → Prop
  | lone {before after : List Input} {i : Input} :
      ¬ rules.LoneAlone inputs →
      inputs = before ++ i :: after → i.button ∈ rules.lone → (∀ e ∈ before, e.button ∉ rules.lone) →
      BreaksFirst rules inputs (.notAlone i.button)
  | buttons {before after : List Input} {i : Input} :
      rules.LoneAlone inputs → ¬ ButtonsDiffer inputs →
      inputs = before ++ i :: after → i.isTouch = false →
      (∃ e ∈ before, e.isTouch = false ∧ e.button = i.button) → ButtonsDiffer before →
      BreaksFirst rules inputs (.duplicateButton i.button)
  | touches {before after : List Input} {i : Input} :
      rules.LoneAlone inputs → ButtonsDiffer inputs → ¬ TouchesDiffer inputs →
      inputs = before ++ i :: after → i.isTouch = true →
      (∃ e ∈ before, e.isTouch = true ∧ e.sameOutcome i = true) → TouchesDiffer before →
      BreaksFirst rules inputs (.duplicateOutcome i.text)
  | fit :
      rules.LoneAlone inputs → ButtonsDiffer inputs → TouchesDiffer inputs →
      ¬ rules.TouchesFit inputs → BreaksFirst rules inputs .multitouch
  | peaceful {before middle after : List Input} {a b : Input} :
      rules.LoneAlone inputs → ButtonsDiffer inputs → TouchesDiffer inputs →
      rules.TouchesFit inputs → ¬ rules.Peaceful inputs →
      inputs = before ++ a :: (middle ++ b :: after) → a.button ≠ b.button →
      (a.button, b.button) ∈ rules.conflicts ∨ (b.button, a.button) ∈ rules.conflicts →
      BreaksFirst rules inputs (.conflict a.button b.button)

end Rules

/-! ## Inputs that do the same -/

namespace Input

variable {a b : Input}

theorem button_eq_of_sameOutcome (h : a.sameOutcome b = true) : a.button = b.button := by
  rw [sameOutcome, Bool.and_eq_true, beq_iff_eq] at h
  exact h.1

/-- A touch and an input that is none never do the same. -/
theorem isTouch_eq_of_sameOutcome (h : a.sameOutcome b = true) : a.isTouch = b.isTouch := by
  rw [sameOutcome, Bool.and_eq_true] at h
  have hkind := h.2
  rw [isTouch, isTouch]
  cases ha : a.kind <;> cases hb : b.kind <;> simp [ha, hb, InputKind.sameOutcome] at hkind ⊢

theorem sameOutcome_comm_of_isTouch (ha : a.isTouch = true) :
    a.sameOutcome b = b.sameOutcome a := by
  rw [isTouch] at ha
  rw [sameOutcome, sameOutcome, Bool.beq_comm (a := a.button)]
  congr 1
  cases hkind : a.kind <;> cases hkind' : b.kind <;>
    simp_all [InputKind.sameOutcome, eq_comm, Bool.beq_eq_decide_eq]

end Input

/-! ## Going through a list -/

namespace Rules

section Searches

variable {related test : Input → Input → Bool} {earlier inputs : List Input}

theorem firstRelated?_eq_none_iff : firstRelated? related earlier inputs = none ↔
    (∀ e ∈ earlier, ∀ i ∈ inputs, related e i = false) ∧
      inputs.Pairwise fun a b => related a b = false := by
  induction inputs generalizing earlier with
  | nil => simp [firstRelated?]
  | cons input later ih =>
    rw [firstRelated?]
    by_cases hany : earlier.any (fun e => related e input) = true
    · obtain ⟨e, he, hrelated⟩ := List.any_eq_true.mp hany
      rw [if_pos hany]
      simp only [reduceCtorEq, false_iff, not_and]
      intro hnone
      rw [hnone e he input List.mem_cons_self] at hrelated
      cases hrelated
    · rw [if_neg hany, ih]
      simp only [List.pairwise_cons, List.mem_append, List.mem_cons, List.not_mem_nil, or_false]
      simp only [List.any_eq_true, not_exists, not_and, Bool.not_eq_true] at hany
      constructor
      · intro hleft
        obtain ⟨hearlier, hlater⟩ := hleft
        refine ⟨?_, fun b hb => hearlier input (Or.inr rfl) b hb, hlater⟩
        rintro e he i (rfl | hi)
        · exact hany e he
        · exact hearlier e (Or.inl he) i hi
      · intro hright
        obtain ⟨hearlier, hinput, hlater⟩ := hright
        refine ⟨?_, hlater⟩
        rintro e (he | rfl) i hi
        · exact hearlier e he i (Or.inr hi)
        · exact hinput i hi

/-- What is found is the first input that is related to one before it. -/
theorem exists_of_firstRelated?_eq_some {i : Input}
    (h : firstRelated? related earlier inputs = some i) :
    ∃ before after, inputs = before ++ i :: after ∧
      (∃ e ∈ earlier ++ before, related e i = true) ∧
      before.Pairwise fun a b => related a b = false := by
  -- the search of the part before the input has found nothing
  suffices hsearch : ∃ before after, inputs = before ++ i :: after ∧
      (∃ e ∈ earlier ++ before, related e i = true) ∧
      firstRelated? related earlier before = none by
    obtain ⟨before, after, hinputs, hrelated, hnone⟩ := hsearch
    exact ⟨before, after, hinputs, hrelated, (firstRelated?_eq_none_iff.mp hnone).2⟩
  induction inputs generalizing earlier with
  | nil => cases h
  | cons input later ih =>
    rw [firstRelated?] at h
    split at h
    · rename_i hany
      obtain rfl := Option.some.inj h
      exact ⟨[], later, rfl, by simpa using hany, rfl⟩
    · rename_i hany
      obtain ⟨before, after, rfl, hrelated, hnone⟩ := ih h
      refine ⟨input :: before, after, rfl, by simpa using hrelated, ?_⟩
      rw [firstRelated?, if_neg hany]
      exact hnone

theorem firstPair?_eq_none_iff :
    firstPair? test inputs = none ↔ inputs.Pairwise fun a b => test a b = false := by
  induction inputs with
  | nil => simp [firstPair?]
  | cons a later ih =>
    rw [firstPair?, List.pairwise_cons, ← ih]
    cases hfind : later.find? (test a) with
    | none =>
      have hnone : ∀ b ∈ later, test a b = false := by simpa using hfind
      exact (and_iff_right hnone).symm
    | some b =>
      have hb := List.mem_of_find?_eq_some hfind
      have htest := List.find?_some hfind
      simp only [reduceCtorEq, false_iff, not_and]
      intro hnone
      rw [hnone b hb] at htest
      cases htest

theorem exists_of_firstPair?_eq_some {a b : Input} (h : firstPair? test inputs = some (a, b)) :
    ∃ before middle after, inputs = before ++ a :: (middle ++ b :: after) ∧ test a b = true := by
  induction inputs with
  | nil => cases h
  | cons c later ih =>
    rw [firstPair?] at h
    cases hfind : later.find? (test c) with
    | none =>
      rw [hfind] at h
      obtain ⟨before, middle, after, rfl, htest⟩ := ih h
      exact ⟨c :: before, middle, after, rfl, htest⟩
    | some d =>
      rw [hfind] at h
      cases h
      obtain ⟨middle, after, hlater⟩ := List.append_of_mem (List.mem_of_find?_eq_some hfind)
      exact ⟨[], middle, after, by rw [hlater]; rfl, List.find?_some hfind⟩

end Searches

/-! ## One check after the other -/

variable {rules : Rules} {inputs : List Input} {v : Violation}

theorem isConflict_eq_true_iff {a b : String} : rules.isConflict a b = true ↔
    (a, b) ∈ rules.conflicts ∨ (b, a) ∈ rules.conflicts := by
  simp [isConflict]

theorem companyViolation?_eq_none_iff :
    rules.companyViolation? inputs = none ↔ rules.LoneAlone inputs := by
  rw [companyViolation?, LoneAlone]
  split
  · rename_i hlength
    simp [Nat.not_le.mpr hlength]
  · rename_i hlength
    simp [Nat.not_lt.mp hlength]

theorem buttonViolation?_eq_none_iff : buttonViolation? inputs = none ↔ ButtonsDiffer inputs := by
  simp [buttonViolation?, ButtonsDiffer, firstRelated?_eq_none_iff]

/-- Once no button is pressed twice, only touches can still do the same. -/
theorem pairwise_sameOutcome_iff (hbuttons : ButtonsDiffer inputs) :
    (inputs.Pairwise fun a b => a.sameOutcome b = false) ↔ TouchesDiffer inputs := by
  rw [ButtonsDiffer, List.pairwise_filter] at hbuttons
  rw [TouchesDiffer, List.pairwise_filter]
  constructor
  · exact fun h => h.imp fun hdiffer _ _ => hdiffer
  · intro h
    refine (h.and hbuttons).imp ?_
    intro a b hab
    obtain ⟨htouches, hothers⟩ := hab
    by_contra hsame
    rw [Bool.not_eq_false] at hsame
    have htouch := Input.isTouch_eq_of_sameOutcome hsame
    have hbutton := Input.button_eq_of_sameOutcome hsame
    cases ha : a.isTouch with
    | true =>
      rw [ha] at htouch
      rw [htouches ha htouch.symm] at hsame
      cases hsame
    | false =>
      rw [ha] at htouch
      exact hothers (by simp [ha]) (by simp [← htouch]) hbutton

theorem outcomeViolation?_eq_none_iff (hbuttons : ButtonsDiffer inputs) :
    outcomeViolation? inputs = none ↔ TouchesDiffer inputs := by
  simp [outcomeViolation?, firstRelated?_eq_none_iff, pairwise_sameOutcome_iff hbuttons]

theorem touchViolation?_eq_none_iff :
    rules.touchViolation? inputs = none ↔ rules.TouchesFit inputs := by
  rw [touchViolation?, TouchesFit]
  cases rules.multitouch <;> simp

theorem conflictViolation?_eq_none_iff :
    rules.conflictViolation? inputs = none ↔ rules.Peaceful inputs := by
  have hsymm : Std.Symm fun a b : Input => (a.button ≠ b.button →
      (a.button, b.button) ∉ rules.conflicts ∧ (b.button, a.button) ∉ rules.conflicts) :=
    ⟨fun a b h hne => And.comm.mp (h hne.symm)⟩
  have htest (a b : Input) : (a.button != b.button && rules.isConflict a.button b.button) = false ↔
      (a.button ≠ b.button →
        (a.button, b.button) ∉ rules.conflicts ∧ (b.button, a.button) ∉ rules.conflicts) := by
    rw [← Bool.not_eq_true, Bool.and_eq_true, bne_iff_ne, isConflict_eq_true_iff, not_and, not_or]
  rw [conflictViolation?, Option.map_eq_none_iff, firstPair?_eq_none_iff]
  simp only [htest]
  constructor
  · intro h a ha b hb
    exact List.Pairwise.forall_of_forall (fun _ _ hne => absurd rfl hne) h ha hb
  · exact fun h => List.pairwise_of_forall_mem_list h

/-! ## A set -/

/-- **A set passes the checks exactly if it is allowed.** -/
theorem setViolation?_eq_none_iff {set : InputSet} :
    rules.setViolation? set = none ↔ rules.Allows set.inputs := by
  rw [setViolation?]
  simp only [Option.or_eq_none_iff, companyViolation?_eq_none_iff, buttonViolation?_eq_none_iff,
    touchViolation?_eq_none_iff, conflictViolation?_eq_none_iff]
  constructor
  · intro hleft
    obtain ⟨hlone, hbuttons, houtcomes, hfit, hpeaceful⟩ := hleft
    exact ⟨hlone, hbuttons, (outcomeViolation?_eq_none_iff hbuttons).mp houtcomes, hfit, hpeaceful⟩
  · intro h
    exact ⟨h.lone, h.buttons, (outcomeViolation?_eq_none_iff h.buttons).mpr h.touches, h.fit,
      h.peaceful⟩

instance (rules : Rules) (inputs : List Input) : Decidable (rules.Allows inputs) :=
  decidable_of_iff (rules.setViolation? ⟨inputs⟩ = none) setViolation?_eq_none_iff

/-- **The order of the inputs does not count.** -/
theorem Allows.perm {other : List Input} (hperm : inputs.Perm other) (h : rules.Allows inputs) :
    rules.Allows other where
  lone := by
    refine h.lone.imp (fun hlength => ?_) fun hlone i hi => ?_
    · rw [← hperm.length_eq]
      exact hlength
    · exact hlone i (hperm.mem_iff.mpr hi)
  buttons := by
    have h' := h.buttons
    rw [ButtonsDiffer, List.pairwise_filter] at h' ⊢
    exact hperm.pairwise h' fun hdiffer hb ha => (hdiffer ha hb).symm
  touches := by
    -- outcomes are compared in the order of the inputs, but touches compare alike in either order
    have h' := h.touches
    rw [TouchesDiffer, List.pairwise_filter] at h' ⊢
    refine hperm.pairwise h' fun hdiffer hb ha => ?_
    rw [Input.sameOutcome_comm_of_isTouch hb]
    exact hdiffer ha hb
  fit := by
    refine h.fit.imp id fun hcount => ?_
    rw [← hperm.countP_eq]
    exact hcount
  peaceful := fun a ha b hb => h.peaceful a (hperm.mem_iff.mpr ha) b (hperm.mem_iff.mpr hb)

/-- What a search in a filtered list finds splits the list itself. -/
theorem exists_append_of_filter_eq {p : Input → Bool} {before after : List Input} {i : Input}
    (h : inputs.filter p = before ++ i :: after) :
    ∃ before' after', inputs = before' ++ i :: after' ∧ before'.filter p = before ∧ p i = true := by
  obtain ⟨front, back, rfl, hfront, hback⟩ := List.filter_eq_append_iff.mp h
  obtain ⟨skipped, after', rfl, hskipped, hi, _⟩ := List.filter_eq_cons_iff.mp hback
  refine ⟨front ++ skipped, after', by rw [List.append_assoc], ?_, hi⟩
  rw [List.filter_append, hfront, List.filter_eq_nil_iff.mpr hskipped, List.append_nil]

theorem breaksFirst_of_companyViolation? (h : rules.companyViolation? inputs = some v) :
    rules.BreaksFirst inputs v := by
  have hbroken : ¬ rules.LoneAlone inputs := by
    rw [← companyViolation?_eq_none_iff, h]
    exact Option.some_ne_none v
  rw [companyViolation?] at h
  split at h
  · obtain ⟨i, hfind, rfl⟩ := Option.map_eq_some_iff.mp h
    obtain ⟨hi, before, after, hinputs, hbefore⟩ := List.find?_eq_some_iff_append.mp hfind
    exact .lone hbroken hinputs (by simpa using hi) (by simpa using hbefore)
  · cases h

theorem breaksFirst_of_buttonViolation? (hlone : rules.LoneAlone inputs)
    (h : buttonViolation? inputs = some v) : rules.BreaksFirst inputs v := by
  have hbroken : ¬ ButtonsDiffer inputs := by
    rw [← buttonViolation?_eq_none_iff, h]
    exact Option.some_ne_none v
  obtain ⟨i, hfound, rfl⟩ := Option.map_eq_some_iff.mp h
  obtain ⟨before, after, hfilter, ⟨e, he, hbutton⟩, hdiffer⟩ := exists_of_firstRelated?_eq_some hfound
  obtain ⟨before, after, hinputs, rfl, hi⟩ := exists_append_of_filter_eq hfilter
  obtain ⟨he, htouch⟩ := List.mem_filter.mp he
  refine .buttons hlone hbroken hinputs (by simpa using hi)
    ⟨e, he, by simpa using htouch, beq_iff_eq.mp hbutton⟩ ?_
  exact hdiffer.imp fun hne => by simpa using hne

theorem breaksFirst_of_outcomeViolation? (hlone : rules.LoneAlone inputs)
    (hbuttons : ButtonsDiffer inputs) (h : outcomeViolation? inputs = some v) :
    rules.BreaksFirst inputs v := by
  have hbroken : ¬ TouchesDiffer inputs := by
    rw [← outcomeViolation?_eq_none_iff hbuttons, h]
    exact Option.some_ne_none v
  obtain ⟨i, hfound, rfl⟩ := Option.map_eq_some_iff.mp h
  obtain ⟨before, after, hinputs, ⟨e, he, hsame⟩, hdiffer⟩ := exists_of_firstRelated?_eq_some hfound
  have htouch := Input.isTouch_eq_of_sameOutcome hsame
  have hi : i.isTouch = true := by
    -- two inputs that are not touches would press one button twice
    by_contra hi
    rw [Bool.not_eq_true] at hi
    rw [ButtonsDiffer, hinputs, List.pairwise_filter, List.pairwise_append] at hbuttons
    exact hbuttons.2.2 e he i List.mem_cons_self (by simp [htouch, hi]) (by simp [hi])
      (Input.button_eq_of_sameOutcome hsame)
  exact .touches hlone hbuttons hbroken hinputs hi ⟨e, he, htouch.trans hi, hsame⟩
    (hdiffer.filter _)

theorem breaksFirst_of_touchViolation? (hlone : rules.LoneAlone inputs)
    (hbuttons : ButtonsDiffer inputs) (htouches : TouchesDiffer inputs)
    (h : rules.touchViolation? inputs = some v) : rules.BreaksFirst inputs v := by
  have hbroken : ¬ rules.TouchesFit inputs := by
    rw [← touchViolation?_eq_none_iff, h]
    exact Option.some_ne_none v
  rw [touchViolation?] at h
  split at h
  · obtain rfl := Option.some.inj h
    exact .fit hlone hbuttons htouches hbroken
  · cases h

theorem breaksFirst_of_conflictViolation? (hlone : rules.LoneAlone inputs)
    (hbuttons : ButtonsDiffer inputs) (htouches : TouchesDiffer inputs)
    (hfit : rules.TouchesFit inputs) (h : rules.conflictViolation? inputs = some v) :
    rules.BreaksFirst inputs v := by
  have hbroken : ¬ rules.Peaceful inputs := by
    rw [← conflictViolation?_eq_none_iff, h]
    exact Option.some_ne_none v
  obtain ⟨⟨a, b⟩, hfound, rfl⟩ := Option.map_eq_some_iff.mp h
  obtain ⟨before, middle, after, hinputs, htest⟩ := exists_of_firstPair?_eq_some hfound
  rw [Bool.and_eq_true, bne_iff_ne, isConflict_eq_true_iff] at htest
  exact .peaceful hlone hbuttons htouches hfit hbroken hinputs htest.1 htest.2

/-- **The violation of a set is what it breaks first.** -/
theorem breaksFirst_of_setViolation? {set : InputSet} (h : rules.setViolation? set = some v) :
    rules.BreaksFirst set.inputs v := by
  simp only [setViolation?, Option.or_eq_some_iff] at h
  rcases h with h | ⟨hlone, h | ⟨hbuttons, h | ⟨htouches, h | ⟨hfit, h⟩⟩⟩⟩
  · exact breaksFirst_of_companyViolation? h
  all_goals rw [companyViolation?_eq_none_iff] at hlone
  · exact breaksFirst_of_buttonViolation? hlone h
  all_goals rw [buttonViolation?_eq_none_iff] at hbuttons
  · exact breaksFirst_of_outcomeViolation? hlone hbuttons h
  all_goals rw [outcomeViolation?_eq_none_iff hbuttons] at htouches
  · exact breaksFirst_of_touchViolation? hlone hbuttons htouches h
  · rw [touchViolation?_eq_none_iff] at hfit
    exact breaksFirst_of_conflictViolation? hlone hbuttons htouches hfit h

end Rules

/-! ## A sequence -/

/-- The sets of `b` are those of `a` with the inputs of each set, and the sets, in another order. -/
def InputSequence.Rearranged (a b : InputSequence) : Prop :=
  ∃ sets, List.Forall₂ (fun s t : InputSet => s.inputs.Perm t.inputs) a.sets sets ∧
    sets.Perm b.sets

namespace Rules

variable {rules : Rules} {v : Violation} {sequence other : InputSequence}

/-- A sequence passes the checks exactly if all of its sets are allowed. -/
theorem violation?_eq_none_iff :
    rules.violation? sequence = none ↔ ∀ set ∈ sequence.sets, rules.Allows set.inputs := by
  simp only [violation?, List.findSome?_eq_none_iff, setViolation?_eq_none_iff]

theorem forall_mem_iff_of_forall₂ {α β : Type} {R : α → β → Prop} {p : α → Prop} {q : β → Prop}
    {l : List α} {l' : List β} (h : List.Forall₂ R l l') (hpq : ∀ a b, R a b → (p a ↔ q b)) :
    (∀ a ∈ l, p a) ↔ ∀ b ∈ l', q b := by
  induction h with
  | nil => simp
  | cons hab _ ih => rw [List.forall_mem_cons, List.forall_mem_cons, hpq _ _ hab, ih]

theorem violation?_eq_none_iff_of_rearranged (h : sequence.Rearranged other) :
    rules.violation? other = none ↔ rules.violation? sequence = none := by
  obtain ⟨sets, hinputs, hsets⟩ := h
  have hallowed (s t : InputSet) (hperm : s.inputs.Perm t.inputs) :
      rules.Allows s.inputs ↔ rules.Allows t.inputs := ⟨.perm hperm, .perm hperm.symm⟩
  rw [violation?_eq_none_iff, violation?_eq_none_iff, forall_mem_iff_of_forall₂ hinputs hallowed]
  exact forall_congr' fun set => imp_congr_left hsets.mem_iff.symm

/-- The violation of a sequence is that of the first set that is not allowed. -/
theorem exists_of_violation?_eq_some (h : rules.violation? sequence = some v) :
    ∃ before set after, sequence.sets = before ++ set :: after ∧
      (∀ earlier ∈ before, rules.Allows earlier.inputs) ∧ rules.BreaksFirst set.inputs v := by
  obtain ⟨before, set, after, hsets, hset, hbefore⟩ := List.findSome?_eq_some_iff.mp h
  exact ⟨before, set, after, hsets,
    fun earlier hearlier => setViolation?_eq_none_iff.mp (hbefore earlier hearlier),
    breaksFirst_of_setViolation? hset⟩

/-- **The verdict on a sequence.**  It is accepted exactly if each of its sets is allowed, so neither
the order of the inputs of a set nor that of the sets counts.  If it is not, the violation is what
the first set that is not allowed breaks first. -/
theorem violation?_verdict (rules : Rules) (sequence : InputSequence) :
    (rules.violation? sequence = none ↔ ∀ set ∈ sequence.sets, rules.Allows set.inputs) ∧
    (∀ other, sequence.Rearranged other →
      (rules.violation? other = none ↔ rules.violation? sequence = none)) ∧
    ∀ v, rules.violation? sequence = some v → ∃ before set after,
      sequence.sets = before ++ set :: after ∧
        (∀ earlier ∈ before, rules.Allows earlier.inputs) ∧ rules.BreaksFirst set.inputs v :=
  ⟨violation?_eq_none_iff, fun _ => violation?_eq_none_iff_of_rearranged,
    fun _ => exists_of_violation?_eq_some⟩

/-- Several touches are allowed here, but `move1` taps where `11,22` does; the other two inputs of the
set conflict as well, which is checked later. -/
theorem violation?_verdict_same_touch :
    let rules : Rules := { conflicts := [("b", "a")], multitouch := true }
    let point : Input := ⟨"11,22", "touchscreen", "11,22", .touch 11 22⟩
    let named : Input := ⟨"move1", "touchscreen", "move1", .touch 11 22⟩
    let single : InputSet := ⟨[⟨"wait", "wait", "wait", .button⟩]⟩
    let crowd : InputSet := ⟨[point, ⟨"a", "a", "a", .button⟩, named, ⟨"b", "b", "b", .button⟩]⟩
    let swapped : InputSet := ⟨[⟨"a", "a", "a", .button⟩, point, named, ⟨"b", "b", "b", .button⟩]⟩
    rules.violation? ⟨[single, crowd]⟩ = some (.duplicateOutcome named.text) ∧
      (∃ before set after, [single, crowd] = before ++ set :: after ∧
        (∀ earlier ∈ before, rules.Allows earlier.inputs) ∧
        rules.BreaksFirst set.inputs (.duplicateOutcome named.text)) ∧
      InputSequence.Rearranged ⟨[single, crowd]⟩ ⟨[swapped, single]⟩ ∧
      rules.violation? ⟨[swapped, single]⟩ ≠ none := by
  intro rules point named single crowd swapped
  obtain ⟨_, hrearranged, hviolation⟩ := violation?_verdict rules ⟨[single, crowd]⟩
  have hfound : rules.violation? ⟨[single, crowd]⟩ = some (.duplicateOutcome named.text) := by decide
  have hswapped : InputSequence.Rearranged ⟨[single, crowd]⟩ ⟨[swapped, single]⟩ := by
    refine ⟨[single, swapped], ?_, List.Perm.swap _ _ _⟩
    exact .cons (List.Perm.refl _) (.cons (List.Perm.swap _ _ _) .nil)
  refine ⟨hfound, hviolation _ hfound, hswapped, ?_⟩
  rw [Ne, hrearranged _ hswapped, hfound]
  exact Option.some_ne_none _

end Rules

end ChatPad
