import ChatPad.InputSequence
import Mathlib.Data.List.Forall2
import Mathlib.Data.List.Perm.Subperm

/-!
# Pairing inputs of the same outcome

Two sets are compared greedily: each input of the first claims the first input of the second that
does the same and is still free.  That is no less than looking for any pairing, as long as doing the
same amounts to having the same `key`: then `InputSet.sameOutcome_iff_perm` says that the keys of the
two sets are the same up to their order.  Sequences are compared set by set.
-/

namespace ChatPad

namespace InputSet

variable {κ : Type} {key : Input → κ}

/-- What an input claims has its key. -/
theorem map_perm_cons_eraseP {a b : Input} {unclaimed : List Input}
    (hkey : ∀ c ∈ unclaimed, (a.sameOutcome c = true ↔ key a = key c)) (hb : b ∈ unclaimed)
    (hsame : a.sameOutcome b = true) :
    (unclaimed.map key).Perm (key a :: (unclaimed.eraseP a.sameOutcome).map key) := by
  obtain ⟨c, before, after, _, hc, rfl, herase⟩ := List.exists_of_eraseP hb hsame
  rw [herase, (hkey c (by simp)).mp hc, ← List.map_cons]
  exact List.perm_middle.map key

/-- Every input of a list can claim one of another exactly if the keys of the one are among those of
the other. -/
theorem claimAll_iff_subperm (inputs : List Input) : ∀ unclaimed : List Input,
    (∀ a ∈ inputs, ∀ b ∈ unclaimed, (a.sameOutcome b = true ↔ key a = key b)) →
      (claimAll inputs unclaimed = true ↔ (inputs.map key).Subperm (unclaimed.map key)) := by
  induction inputs with
  | nil => exact fun unclaimed _ => iff_of_true rfl List.nil_subperm
  | cons a later ih =>
    intro unclaimed hkey
    obtain ⟨ha, hlater⟩ := List.forall_mem_cons.mp hkey
    have hrest := ih (unclaimed.eraseP a.sameOutcome) fun c hc b hb =>
      hlater c hc b (List.mem_of_mem_eraseP hb)
    rw [claimAll, Bool.and_eq_true, List.any_eq_true, List.map_cons, hrest]
    constructor
    · rintro ⟨⟨b, hb, hsame⟩, hsubperm⟩
      have hperm := map_perm_cons_eraseP ha hb hsame
      exact hperm.subperm_left.mpr ((List.subperm_cons (key a)).mpr hsubperm)
    · intro hsubperm
      obtain ⟨b, hb, hkeyb⟩ := List.mem_map.mp (hsubperm.subset List.mem_cons_self)
      have hsame := (ha b hb).mpr hkeyb.symm
      have hperm := map_perm_cons_eraseP ha hb hsame
      exact ⟨⟨b, hb, hsame⟩, (List.subperm_cons (key a)).mp (hperm.subperm_left.mp hsubperm)⟩

/-- **Sets of the same outcome have the same keys.** -/
theorem sameOutcome_iff_perm {s t : InputSet}
    (hkey : ∀ a ∈ s.inputs, ∀ b ∈ t.inputs, (a.sameOutcome b = true ↔ key a = key b)) :
    s.sameOutcome t = true ↔ (s.inputs.map key).Perm (t.inputs.map key) := by
  rw [sameOutcome, Bool.and_eq_true, beq_iff_eq, claimAll_iff_subperm s.inputs t.inputs hkey]
  constructor
  · intro h
    exact h.2.perm_of_length_le (by simp [h.1])
  · intro h
    exact ⟨by simpa using h.length_eq, h.subperm⟩

end InputSet

namespace InputSequence

/-- Sequences do the same if their sets do, one by one. -/
theorem sameOutcome_iff_forall₂ {a b : InputSequence} : a.sameOutcome b = true ↔
    List.Forall₂ (fun s t => InputSet.sameOutcome s t = true) a.sets b.sets := by
  rw [sameOutcome, Bool.and_eq_true, beq_iff_eq, List.all_eq_true, List.forall₂_iff_zip]
  simp only [Prod.forall]

end InputSequence

end ChatPad
