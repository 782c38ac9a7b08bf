import ChatPad.Grammar
import ChatPad.Proofs.Fragment.Lead
import Mathlib.Data.List.Nodup

/-!
# The index of a grammar

A compiled grammar looks its alternatives up by the class of the next character.  The look-up gives
exactly the alternatives whose lead allows the text, in the order of registration:

* `compile_eq_ok_iff`: what compiling gives, and when;
* `candidatesAt_eq_filter`: the look-up as a filter of all alternatives;
* `mem_candidatesAt_of_mem_ends`: no alternative that matches is left out.
-/

namespace ChatPad

/-- Sorting by a key gives the only arrangement in which the keys ascend. -/
theorem mergeSort_eq_of_perm {α : Type} (key : α → Nat) {l l' : List α} (hperm : l.Perm l')
    (hascending : l'.Pairwise fun a b => key a < key b) :
    (l.mergeSort fun a b => key a ≤ key b) = l' := by
  have hsort := List.mergeSort_perm l fun a b => decide (key a ≤ key b)
  have hkeys : (l'.map key).Nodup := by
    rw [List.nodup_iff_pairwise_ne, List.pairwise_map]
    exact hascending.imp fun h => Nat.ne_of_lt h
  have hsorted : (l.mergeSort fun a b => key a ≤ key b).Pairwise
      fun a b => decide (key a ≤ key b) = true := by
    apply List.pairwise_mergeSort
    · intro a b c hab hbc
      rw [decide_eq_true_eq] at hab hbc ⊢
      omega
    · intro a b
      rw [Bool.or_eq_true, decide_eq_true_eq, decide_eq_true_eq]
      omega
  have hascending' : l'.Pairwise fun a b => decide (key a ≤ key b) = true :=
    hascending.imp fun h => decide_eq_true (Nat.le_of_lt h)
  refine List.Perm.eq_of_pairwise ?_ hsorted hascending' (hsort.trans hperm)
  intro a b ha hb hab hba
  have ha' : a ∈ l' := (hsort.trans hperm).mem_iff.mp ha
  rw [decide_eq_true_eq] at hab hba
  exact List.inj_on_of_nodup_map hkeys ha' hb (Nat.le_antisymm hab hba)

/-- Numbering a list gives ascending numbers. -/
theorem zipIdx_ascending {α : Type} (l : List α) : l.zipIdx.Pairwise fun a b => a.2 < b.2 := by
  have hnumbers : (l.zipIdx.map Prod.snd).Pairwise (· < ·) := by
    rw [List.zipIdx_map_snd]
    exact List.pairwise_lt_range'
  exact List.pairwise_map.mp hnumbers

namespace Grammar

variable {definitions : List Definition} {limits : Limits} {g : Grammar}

/-- Compiling succeeds if there is a definition and no limit is zero. -/
theorem compile_eq_ok_iff : compile definitions limits = .ok g ↔
    definitions ≠ [] ∧ 0 < limits.setLength ∧ 0 < limits.sequenceLength ∧
      g = ⟨alternativesOf definitions, .ofAlternatives (alternativesOf definitions), limits⟩ := by
  rw [compile]
  split
  · rename_i h
    simp [List.isEmpty_iff.mp h]
  · split
    · rename_i hset
      simp [hset]
    · split
      · rename_i hsequence
        simp [hsequence]
      · rename_i hdefinitions hset hsequence
        rw [Except.ok.injEq]
        have hne : definitions ≠ [] := by
          intro hempty
          rw [hempty] at hdefinitions
          exact hdefinitions rfl
        constructor
        · intro hcompiled
          subst hcompiled
          exact ⟨hne, Nat.pos_of_ne_zero hset, Nat.pos_of_ne_zero hsequence, rfl⟩
        · intro hright
          obtain ⟨_, _, _, rfl⟩ := hright
          rfl

/-- Whether compiling fails, and why, does not depend on what the definitions are. -/
theorem compile_eq_error_iff {definitions' : List Definition}
    (hempty : definitions.isEmpty = definitions'.isEmpty) {error : SetupError} :
    compile definitions limits = .error error ↔ compile definitions' limits = .error error := by
  rw [compile, compile, hempty]
  split
  · rfl
  · split
    · rfl
    · split
      · rfl
      · exact ⟨nofun, nofun⟩

/-! ## The alternatives -/

theorem mem_alternativesOf_iff {a : Alternative} : a ∈ alternativesOf definitions ↔
    ∃ d, definitions[a.id]? = some d ∧ a = ⟨a.id, d.fragment, d.description⟩ := by
  rw [alternativesOf, List.mem_map]
  constructor
  · intro hleft
    obtain ⟨⟨d, id⟩, hmem, rfl⟩ := hleft
    exact ⟨d, List.mk_mem_zipIdx_iff_getElem?.mp hmem, rfl⟩
  · intro hright
    obtain ⟨d, hd, ha⟩ := hright
    exact ⟨(d, a.id), List.mk_mem_zipIdx_iff_getElem?.mpr hd, ha.symm⟩

theorem alternativesOf_ascending :
    (alternativesOf definitions).Pairwise fun a b => a.id < b.id := by
  rw [alternativesOf, List.pairwise_map]
  exact zipIdx_ascending definitions

/-! ## Looking alternatives up -/

/-- **The look-up is a filter.**  The candidates in front of a text are the alternatives whose lead
allows it, in the order of registration. -/
theorem candidatesAt_eq_filter (h : compile definitions limits = .ok g) (rest : List Char) :
    g.candidatesAt rest = g.alternatives.filter fun a => a.fragment.worthTrying rest := by
  obtain ⟨_, _, _, rfl⟩ := compile_eq_ok_iff.mp h
  have hascending : (alternativesOf definitions).Pairwise fun a b => a.id < b.id :=
    alternativesOf_ascending
  generalize alternativesOf definitions = alternatives at hascending
  cases rest with
  | nil => rfl
  | cons c rest =>
    have hbucket : (LeadIndex.ofAlternatives alternatives).bucket (.ofChar c) =
        alternatives.filter fun a =>
          !a.fragment.lead.nullable && a.fragment.lead.classes.has (.ofChar c) := by
      cases LeadClass.ofChar c <;> rfl
    have halways : (LeadIndex.ofAlternatives alternatives).always =
        alternatives.filter fun a => a.fragment.lead.nullable := rfl
    simp only [candidatesAt, hbucket, halways]
    split
    · -- no alternative is nullable, so the bucket alone is the filter
      rename_i hempty
      refine List.filter_congr fun a ha => ?_
      have hnot := List.filter_eq_nil_iff.mp (List.isEmpty_iff.mp hempty) a ha
      simp [Fragment.worthTrying, Bool.not_eq_true _ ▸ hnot]
    · refine mergeSort_eq_of_perm Alternative.id ?_ (hascending.filter _)
      -- bucket and nullable alternatives are the two halves of what is worth trying
      have hhalves := List.filter_append_perm (fun a : Alternative => a.fragment.lead.nullable)
        (alternatives.filter fun a => a.fragment.worthTrying (c :: rest))
      rw [List.filter_filter, List.filter_filter] at hhalves
      refine List.perm_append_comm.trans (List.Perm.trans (List.Perm.of_eq ?_) hhalves)
      congr 1
      · refine List.filter_congr fun a _ => ?_
        cases hnullable : a.fragment.lead.nullable <;> simp [Fragment.worthTrying, hnullable]
      · refine List.filter_congr fun a _ => ?_
        cases hnullable : a.fragment.lead.nullable <;> simp [Fragment.worthTrying, hnullable]

/-- The candidates stand in the order of registration. -/
theorem candidatesAt_ascending (h : compile definitions limits = .ok g) (rest : List Char) :
    (g.candidatesAt rest).Pairwise fun a b => a.id < b.id := by
  rw [candidatesAt_eq_filter h]
  obtain ⟨_, _, _, rfl⟩ := compile_eq_ok_iff.mp h
  exact alternativesOf_ascending.filter _

/-- **No alternative that matches is left out.** -/
theorem mem_candidatesAt_of_mem_ends (h : compile definitions limits = .ok g) {rest : List Char}
    {a : Alternative} {n : Nat} (ha : a ∈ g.alternatives) (hn : n ∈ a.fragment.ends rest) :
    a ∈ g.candidatesAt rest := by
  rw [candidatesAt_eq_filter h, List.mem_filter]
  exact ⟨ha, Fragment.worthTrying_of_mem_ends hn⟩

end Grammar

end ChatPad
