import ChatPad.Proofs.Definition.BuiltIn
import ChatPad.Proofs.Outcome.Apart
import Mathlib.Data.Fintype.Basic
import Mathlib.Logic.Equiv.Fin.Basic

/-!
# Outcomes of sets, paired up

The inputs of two sets are paired by a bijection of their places, `InputSet.PairsWith`.  A greedy
comparison need not find one, since an input can claim what a later one needs.  It does find one if
strengths of one button are equal or far from each other: then two inputs that can claim one input in
common can claim just the same inputs, and it does not matter which of them comes first.

* `perm_map_iff_exists_equiv`: lists of keys are the same up to their order if and only if some
  bijection of the places carries the one into the other;
* `InputSet.ApartFrom.sameOutcome_iff_pairsWith`, `InputSet.ApartFrom.sameOutcome_trans` and
  `InputSet.ApartFrom.sameOutcome_perm`: what this makes of the comparison of two sets;
* `Definition.apart_of_read_analog`: strengths that can be typed are equal or far from each other.
-/

namespace ChatPad

/-! ## Bijections of places -/

section Places

variable {α β κ : Type}

/-- Each step of a rearrangement is a bijection of the places. -/
theorem exists_equiv_of_perm {l l' : List κ} (h : l.Perm l') :
    ∃ σ : Fin l.length ≃ Fin l'.length, ∀ i, l.get i = l'.get (σ i) := by
  induction h with
  | nil => exact ⟨Equiv.refl _, fun i => i.elim0⟩
  | cons a _ ih =>
    obtain ⟨σ, hσ⟩ := ih
    refine ⟨(finSuccEquiv _).trans (σ.optionCongr.trans (finSuccEquiv _).symm), ?_⟩
    refine Fin.cases rfl fun i => ?_
    simpa using hσ i
  | swap a b l =>
    refine ⟨Equiv.swap 0 1, Fin.cases rfl fun i => ?_⟩
    refine Fin.cases rfl (fun i => ?_) i
    rw [Equiv.swap_apply_of_ne_of_ne]
    · rfl
    · exact Fin.succ_ne_zero _
    · exact fun h => Fin.succ_ne_zero i (Fin.succ_injective _ h)
  | trans _ _ ih ih' =>
    obtain ⟨σ, hσ⟩ := ih
    obtain ⟨τ, hτ⟩ := ih'
    exact ⟨σ.trans τ, fun i => (hσ i).trans (hτ (σ i))⟩

/-- **Keys in any order.**  Two lists have the same keys up to their order if and only if their places
can be paired so that keys agree. -/
theorem perm_map_iff_exists_equiv {f : α → κ} {g : β → κ} {l : List α} {l' : List β} :
    (l.map f).Perm (l'.map g) ↔
      ∃ σ : Fin l.length ≃ Fin l'.length, ∀ i, f (l.get i) = g (l'.get (σ i)) := by
  constructor
  · intro h
    obtain ⟨σ, hσ⟩ := exists_equiv_of_perm h
    refine ⟨(finCongr (List.length_map f).symm).trans (σ.trans (finCongr (List.length_map g))),
      fun i => ?_⟩
    simpa using hσ (Fin.cast (List.length_map f).symm i)
  · rintro ⟨σ, hσ⟩
    have hkeys {α : Type} (f : α → κ) (l : List α) :
        ((l.map f : List κ) : Multiset κ) = Finset.univ.val.map fun i => f (l.get i) := by
      rw [Fin.univ_val_map, ← Function.comp_def, ← List.map_ofFn, List.ofFn_get]
    refine Multiset.coe_eq_coe.mp ?_
    calc ((l.map f : List κ) : Multiset κ)
        = Finset.univ.val.map fun i => g (l'.get (σ i)) := by rw [hkeys]; simp only [hσ]
      _ = (Finset.univ.val.map σ).map fun j => g (l'.get j) := by rw [Multiset.map_map]; rfl
      _ = ((l'.map g : List κ) : Multiset κ) := by rw [Multiset.map_univ_val_equiv, hkeys]

end Places

namespace InputSet

variable {s s' t t' u : InputSet}

/-- A bijection between the inputs of two sets that pairs each with one of the same outcome. -/
def PairsWith (s t : InputSet) : Prop :=
  ∃ σ : Fin s.inputs.length ≃ Fin t.inputs.length,
    ∀ i, (s.inputs.get i).sameOutcome (t.inputs.get (σ i)) = true

/-! ## Two sets -/

theorem ApartFrom.sameOutcome_iff_perm (h : s.ApartFrom t) : s.sameOutcome t = true ↔
    (s.inputs.map Input.outcome).Perm (t.inputs.map Input.outcome) :=
  InputSet.sameOutcome_iff_perm fun a ha b hb => Input.sameOutcome_iff_outcome_eq (h a ha b hb)

/-- **Greedy claims find a bijection** if there is one. -/
theorem ApartFrom.sameOutcome_iff_pairsWith (h : s.ApartFrom t) :
    s.sameOutcome t = true ↔ s.PairsWith t := by
  rw [h.sameOutcome_iff_perm, perm_map_iff_exists_equiv]
  refine exists_congr fun σ => forall_congr' fun i => ?_
  exact (Input.sameOutcome_iff_outcome_eq (h _ (List.get_mem _ _) _ (List.get_mem _ _))).symm

theorem ApartFrom.sameOutcome_comm (h : s.ApartFrom t) : t.sameOutcome s = s.sameOutcome t := by
  rw [Bool.eq_iff_iff, h.sameOutcome_iff_perm, h.symm.sameOutcome_iff_perm]
  exact List.perm_comm

/-- Two sets that do the same lie apart from the same sets, as far as their outcomes can tell. -/
theorem ApartFrom.sameOutcome_trans (hst : s.ApartFrom t) (htu : t.ApartFrom u)
    (h : s.sameOutcome t = true) (h' : t.sameOutcome u = true) : s.sameOutcome u = true := by
  have hperm := hst.sameOutcome_iff_perm.mp h
  have hkey : ∀ a ∈ s.inputs, ∀ c ∈ u.inputs, (a.sameOutcome c = true ↔ a.outcome = c.outcome) := by
    intro a ha c hc
    obtain ⟨b, hb, hba⟩ := List.mem_map.mp (hperm.subset (List.mem_map_of_mem ha))
    rw [← hba, ← Input.sameOutcome_congr hba]
    exact Input.sameOutcome_iff_outcome_eq (htu b hb c hc)
  exact (InputSet.sameOutcome_iff_perm hkey).mpr (hperm.trans (htu.sameOutcome_iff_perm.mp h'))

theorem ApartFrom.of_perm (h : s.ApartFrom t) (hs : s'.inputs.Perm s.inputs)
    (ht : t'.inputs.Perm t.inputs) : s'.ApartFrom t' :=
  fun a ha b hb => h a (hs.subset ha) b (ht.subset hb)

/-- **The order of the inputs does not count**, on either side. -/
theorem ApartFrom.sameOutcome_perm (h : s.ApartFrom t) (hs : s'.inputs.Perm s.inputs)
    (ht : t'.inputs.Perm t.inputs) : s'.sameOutcome t' = s.sameOutcome t := by
  rw [Bool.eq_iff_iff, h.sameOutcome_iff_perm, (h.of_perm hs ht).sameOutcome_iff_perm,
    (hs.map _).congr_left, (ht.map _).congr_right]

end InputSet

/-- **Sequences do the same** if they have as many sets, and a bijection at every position. -/
theorem InputSequence.sameOutcome_iff_pairsWith {a b : InputSequence}
    (h : ∀ i (ha : i < a.sets.length) (hb : i < b.sets.length), a.sets[i].ApartFrom b.sets[i]) :
    a.sameOutcome b = true ↔ a.sets.length = b.sets.length ∧
      ∀ i (ha : i < a.sets.length) (hb : i < b.sets.length), a.sets[i].PairsWith b.sets[i] := by
  rw [sameOutcome_iff_forall₂, List.forall₂_iff_get]
  refine and_congr_right fun _ => forall_congr' fun i => forall_congr' fun ha =>
    forall_congr' fun hb => ?_
  exact (h i ha hb).sameOutcome_iff_pairsWith

/-! ## Typed strengths -/

theorem strengths_apart : ∀ x ∈ strengths, ∀ y ∈ strengths, x.Apart y := by decide +kernel

/-- **Strengths that can be typed** are equal or far from each other. -/
theorem Definition.apart_of_read_analog {name name' target target' text text' : String}
    {keepsName keepsName' : Bool} {a b : Input} (ha : (analog name target keepsName).read text = some a)
    (hb : (analog name' target' keepsName').read text' = some b) : a.ApartFrom b := by
  have hstrength {i : Input} (hi : i.kind.IsPress) : ∀ x ∈ i.strength?, x ∈ strengths := by
    rw [Input.strength?]
    rcases hi with hkind | ⟨s, hkind, hs⟩
    · rw [hkind]
      exact fun _ hx => absurd hx (Option.not_mem_none _)
    · rw [hkind]
      rintro x ⟨⟩
      exact hs
  exact fun x hx y hy => strengths_apart x (hstrength (of_read_analog ha).2 x hx)
    y (hstrength (of_read_analog hb).2 y hy)

/-! ## Outcomes -/

/-- **Greedy comparison is comparison up to a bijection**, as long as strengths of one button are equal
or far from each other: it is then reflexive, symmetric and transitive, the order of the inputs does
not count on either side, and sequences are compared position by position.  Strengths are far from each
other if their exact distance is at least `2 ^ (-23)`, and all that analog inputs can be typed with are
equal or far from each other. -/
theorem InputSet.sameOutcome_bijection :
    (∀ s t : InputSet, s.ApartFrom t → (s.sameOutcome t = true ↔ s.PairsWith t)) ∧
    (∀ s : InputSet, s.sameOutcome s = true) ∧
    (∀ s t : InputSet, s.ApartFrom t → t.sameOutcome s = s.sameOutcome t) ∧
    (∀ s t u : InputSet, s.ApartFrom t → t.ApartFrom u →
      s.sameOutcome t = true → t.sameOutcome u = true → s.sameOutcome u = true) ∧
    (∀ s t s' t' : InputSet, s.ApartFrom t → s'.inputs.Perm s.inputs → t'.inputs.Perm t.inputs →
      s'.sameOutcome t' = s.sameOutcome t) ∧
    (∀ a b : InputSequence,
      (∀ i (ha : i < a.sets.length) (hb : i < b.sets.length), a.sets[i].ApartFrom b.sets[i]) →
      (a.sameOutcome b = true ↔ a.sets.length = b.sets.length ∧
        ∀ i (ha : i < a.sets.length) (hb : i < b.sets.length), a.sets[i].PairsWith b.sets[i])) ∧
    (∀ x y : Strength, Single.epsilonUnits ≤ x.value.gap y.value → x.value.Apart y.value) ∧
    (∀ (name name' target target' : String) (keepsName keepsName' : Bool) (text text' : String)
      (a b : Input), (Definition.analog name target keepsName).read text = some a →
      (Definition.analog name' target' keepsName').read text' = some b → a.ApartFrom b) := by
  refine ⟨fun s t h => h.sameOutcome_iff_pairsWith, sameOutcome_self,
    fun s t h => h.sameOutcome_comm, fun s t u hst htu => hst.sameOutcome_trans htu,
    fun s t s' t' h => h.sameOutcome_perm, fun a b => InputSequence.sameOutcome_iff_pairsWith,
    fun x y hgap => ?_, ?_⟩
  · exact .inr (Single.isFar_of_gap x.isFraction y.isFraction hgap)
  · intro _ _ _ _ _ _ _ _ a b
    exact Definition.apart_of_read_analog

/-- Two presses of one button, under different names, and two strengths of another. -/
theorem InputSet.sameOutcome_bijection_repeated :
    let full : Input := ⟨"up", "up", "up", .analog ⟨.one, by decide +kernel⟩⟩
    let half : Input := ⟨"up", "up", "up.5", .analog ⟨.finite false (2 ^ 148), by decide +kernel⟩⟩
    let y : Input := ⟨"y", "y", "y", .button⟩
    let honk : Input := ⟨"honk", "y", "honk", .button⟩
    let s : InputSet := ⟨[honk, half, y, full]⟩
    let t : InputSet := ⟨[full, y, half, y]⟩
    let u : InputSet := ⟨[honk, honk, full, half]⟩
    s.ApartFrom t ∧ s.PairsWith t ∧ t.sameOutcome s = true ∧ s.sameOutcome u = true ∧
      InputSet.sameOutcome ⟨s.inputs.reverse⟩ t = true ∧
      InputSequence.sameOutcome ⟨[s, t]⟩ ⟨[t, s]⟩ = true ∧
      (Single.finite false (2 ^ 148)).Apart .one ∧
      ((Definition.analog "up" "up" true).read "up.5" = some half ∧ half.ApartFrom half) := by
  intro full half y honk s t u
  have happart : s.ApartFrom t := by decide +kernel
  have hsame : s.sameOutcome t = true := by decide +kernel
  have hread : (Definition.analog "up" "up" true).read "up.5" = some half := by decide +kernel
  obtain ⟨hpairs, -, hcomm, htrans, hperm, hsequences, hgap, htyped⟩ := sameOutcome_bijection
  have hst : s.PairsWith t := (hpairs s t happart).mp hsame
  have hback : t.sameOutcome s = true := (hcomm s t happart).trans hsame
  have hts : t.PairsWith s := (hpairs t s happart.symm).mp hback
  refine ⟨happart, hst, hback, ?_, ?_, ?_, ?_, hread, ?_⟩
  · exact htrans s t u happart (by decide +kernel) hsame (by decide +kernel)
  · exact (hperm s t ⟨s.inputs.reverse⟩ t happart s.inputs.reverse_perm (.refl _)).trans hsame
  · refine (hsequences ⟨[s, t]⟩ ⟨[t, s]⟩ ?_).mpr ⟨rfl, ?_⟩
    · rintro (_ | _ | i) ha hb
      · exact happart
      · exact happart.symm
      · exact absurd ha (by simp)
    · rintro (_ | _ | i) ha hb
      · exact hst
      · exact hts
      · exact absurd ha (by simp)
  · exact hgap ⟨.finite false (2 ^ 148), by decide +kernel⟩ ⟨.one, by decide +kernel⟩
      (by decide +kernel)
  · exact htyped _ _ _ _ _ _ _ _ half half hread hread

/-- Strengths that lie too near to each other: the first input claims what the second one needs, and
the order of the inputs counts. -/
example :
    let near (units : Nat) (h : (Single.finite false units).isFraction = true) : Input :=
      ⟨"up", "up", "up", .analog ⟨.finite false units, h⟩⟩
    let low := near 0 (by decide +kernel)
    let middle := near (2 ^ 125) (by decide +kernel)
    let high := near (2 ^ 126) (by decide +kernel)
    InputSet.sameOutcome ⟨[middle, high]⟩ ⟨[high, low]⟩ = false ∧
      InputSet.sameOutcome ⟨[middle, high]⟩ ⟨[low, high]⟩ = true := by decide +kernel

end ChatPad
