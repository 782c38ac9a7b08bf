import ChatPad.Proofs.Outcome.Apart

/-!
# Arrangements of a set

One set can be written down in many orders, and the comparison of sets is meant not to tell them
apart.  It does so exactly if the set has a bridge: three strengths of one button of which the middle
one is close to both the others, while these are far from each other.  A strength at one end can then
be left without a partner, because the middle one was claimed by the other end.

* `Input.sameOutcome_trans_of_not_bridge`: without a bridge, doing the same is an equivalence;
* `InputSet.exists_arrangements_of_bridge`: with a bridge, two arrangements are told apart;
* `InputSet.sameOutcome_arrangements_iff` puts both together.
-/

namespace ChatPad

/-! ## Doing the same, in both directions -/

theorem Single.isClose_comm (x y : Single) : x.isClose y = y.isClose x := by
  rw [isClose, distance_comm, isClose]

theorem InputKind.sameOutcome_comm (a b : InputKind) : a.sameOutcome b = b.sameOutcome a := by
  cases a with
  | analog x =>
    cases b with
    | analog y => exact Single.isClose_comm x.value y.value
    | _ => rfl
  | side left direct =>
    cases b with
    | side right direct' => exact Bool.beq_comm
    | _ => rfl
  | _ => cases b <;> exact Bool.beq_comm

namespace Input

variable {a b c : Input}

theorem sameOutcome_comm (a b : Input) : a.sameOutcome b = b.sameOutcome a := by
  rw [sameOutcome, sameOutcome, Bool.beq_comm, InputKind.sameOutcome_comm]

/-! ## Bridges -/

/-- Three strengths of one button, the middle one close to both the others, which are not close to
each other. -/
def Bridge (a b c : Input) : Prop :=
  (a.button = b.button ∧ b.button = c.button) ∧
    ∃ x ∈ a.strength?, ∃ y ∈ b.strength?, ∃ z ∈ c.strength?,
      x.isClose y = true ∧ y.isClose z = true ∧ x.isClose z = false

theorem sameOutcome_of_strengths {x y : Single} (hx : x ∈ a.strength?) (hy : y ∈ b.strength?)
    (hbutton : a.button = b.button) : a.sameOutcome b = x.isClose y := by
  rw [strength?] at hx hy
  rw [sameOutcome, hbutton, beq_self_eq_true, Bool.true_and]
  generalize a.kind = kind at hx
  generalize b.kind = kind' at hy
  cases kind with
  | analog =>
    cases kind' with
    | analog =>
      cases hx
      cases hy
      rfl
    | _ => cases hy
  | _ => cases hx

/-- The ends of a bridge do not the same as each other, but both the same as the middle. -/
theorem Bridge.sameOutcome (h : Bridge a b c) :
    a.sameOutcome b = true ∧ b.sameOutcome c = true ∧ a.sameOutcome c = false := by
  obtain ⟨⟨hab, hbc⟩, x, hx, y, hy, z, hz, hxy, hyz, hxz⟩ := h
  rw [sameOutcome_of_strengths hx hy hab, sameOutcome_of_strengths hy hz hbc,
    sameOutcome_of_strengths hx hz (hab.trans hbc)]
  exact ⟨hxy, hyz, hxz⟩

/-- **Doing the same carries over**, but for a bridge. -/
theorem sameOutcome_trans_of_not_bridge (h : ¬ Bridge a b c) (hab : a.sameOutcome b = true)
    (hbc : b.sameOutcome c = true) : a.sameOutcome c = true := by
  obtain ⟨hab, hkind⟩ := Bool.and_eq_true_iff.mp hab
  obtain ⟨hbc, hkind'⟩ := Bool.and_eq_true_iff.mp hbc
  have hab := eq_of_beq hab
  have hbc := eq_of_beq hbc
  rw [Bridge, strength?, strength?, strength?] at h
  rw [sameOutcome, hab.trans hbc, beq_self_eq_true, Bool.true_and]
  generalize a.kind = kind at *
  generalize b.kind = kind' at *
  generalize c.kind = kind'' at *
  cases kind with
  | analog x =>
    cases kind' with
    | analog y =>
      cases kind'' with
      | analog z =>
        by_contra hxz
        rw [Bool.not_eq_true] at hxz
        exact h ⟨⟨hab, hbc⟩, _, rfl, _, rfl, _, rfl, hkind, hkind', hxz⟩
      | _ => cases hkind'
    | _ => cases hkind
  | side left direct =>
    cases kind' with
    | side middle direct' =>
      cases kind'' with
      | side right direct'' =>
        exact beq_iff_eq.mpr ((eq_of_beq hkind).trans (eq_of_beq hkind'))
      | _ => cases hkind'
    | _ => cases hkind
  | _ =>
    obtain rfl := eq_of_beq hkind
    exact hkind'

end Input

namespace InputSet

/-- Whether some inputs of the set make a bridge. -/
def HasBridge (s : InputSet) : Prop :=
  ∃ a ∈ s.inputs, ∃ b ∈ s.inputs, ∃ c ∈ s.inputs, Input.Bridge a b c

/-! ## Arrangements that are told apart -/

/-- Inputs that come first on both sides claim themselves. -/
theorem claimAll_append (shared inputs unclaimed : List Input) :
    claimAll (shared ++ inputs) (shared ++ unclaimed) = claimAll inputs unclaimed := by
  induction shared with
  | nil => rfl
  | cons a later ih =>
    have hself : a.sameOutcome a = true := a.sameOutcome_self
    rw [List.cons_append, List.cons_append, claimAll, List.any_cons, hself, Bool.true_or,
      Bool.true_and, List.eraseP_cons_of_pos hself]
    exact ih

theorem claimAll_cons_of_sameOutcome {a b : Input} (h : a.sameOutcome b = true)
    (inputs unclaimed : List Input) :
    claimAll (a :: inputs) (b :: unclaimed) = claimAll inputs unclaimed := by
  rw [claimAll, List.any_cons, h, Bool.true_or, Bool.true_and, List.eraseP_cons_of_pos h]

/-- The inputs of a bridge stand in three places of a set. -/
theorem exists_perm_of_bridge {s : InputSet} {a b c : Input} (ha : a ∈ s.inputs) (hb : b ∈ s.inputs)
    (hc : c ∈ s.inputs) (h : Input.Bridge a b c) :
    ∃ rest, (a :: b :: c :: rest).Perm s.inputs := by
  obtain ⟨hab, hbc, hac⟩ := h.sameOutcome
  have hba : b ≠ a := by
    rintro rfl
    exact Bool.false_ne_true (hac.symm.trans hbc)
  have hcb : c ≠ b := by
    rintro rfl
    exact Bool.false_ne_true (hac.symm.trans hab)
  have hca : c ≠ a := by
    rintro rfl
    exact Bool.false_ne_true (hac.symm.trans c.sameOutcome_self)
  have hb : b ∈ s.inputs.erase a := (List.mem_erase_of_ne hba).mpr hb
  have hc : c ∈ (s.inputs.erase a).erase b :=
    (List.mem_erase_of_ne hcb).mpr ((List.mem_erase_of_ne hca).mpr hc)
  refine ⟨((s.inputs.erase a).erase b).erase c, ?_⟩
  refine List.Perm.trans (.cons a ?_) (List.perm_cons_erase ha).symm
  exact List.Perm.trans (.cons b (List.perm_cons_erase hc).symm) (List.perm_cons_erase hb).symm

/-- **Two arrangements that are told apart.**  The middle of the bridge claims the first end, and the
other end claims the middle.  Whatever else the first end could claim has claimed itself by then. -/
theorem exists_arrangements_of_bridge {s : InputSet} (h : s.HasBridge) :
    ∃ t u : InputSet, t.inputs.Perm s.inputs ∧ u.inputs.Perm s.inputs ∧ t.sameOutcome u = false := by
  obtain ⟨a, ha, b, hb, c, hc, hbridge⟩ := h
  obtain ⟨rest, hrest⟩ := exists_perm_of_bridge ha hb hc hbridge
  obtain ⟨hab, hbc, hac⟩ := hbridge.sameOutcome
  let near := rest.filter fun i => a.sameOutcome i
  let far := rest.filter fun i => !a.sameOutcome i
  have hall : (a :: b :: c :: (near ++ far)).Perm s.inputs :=
    List.Perm.trans (.cons a (.cons b (.cons c (List.filter_append_perm _ rest)))) hrest
  refine ⟨⟨b :: c :: (near ++ a :: far)⟩, ⟨a :: b :: (near ++ c :: far)⟩, ?_, ?_, ?_⟩
  · have hturn : (b :: c :: a :: (near ++ far)).Perm (a :: b :: c :: (near ++ far)) :=
      .trans (.cons b (.swap a c _)) (.swap a b _)
    exact .trans (.cons b (.cons c List.perm_middle)) (hturn.trans hall)
  · exact .trans (.cons a (.cons b List.perm_middle)) hall
  · have hfar : ∀ i ∈ c :: far, ¬ a.sameOutcome i = true := by
      refine List.forall_mem_cons.mpr ⟨Bool.not_eq_true _ ▸ hac, fun i hi hai => ?_⟩
      have hnot : (!a.sameOutcome i) = true := (List.mem_filter.mp hi).2
      rw [hai] at hnot
      cases hnot
    have hlast : claimAll (a :: far) (c :: far) = false := by
      rw [claimAll, List.any_eq_false.mpr hfar, Bool.false_and]
    rw [sameOutcome, claimAll_cons_of_sameOutcome (by rw [Input.sameOutcome_comm, hab]),
      claimAll_cons_of_sameOutcome (by rw [Input.sameOutcome_comm, hbc]), claimAll_append, hlast,
      Bool.and_false]

/-! ## Arrangements that are not told apart -/

/-- Without a bridge, inputs of the set do the same if they do the same as the same inputs of it. -/
theorem sameOutcome_iff_of_not_hasBridge {s : InputSet} (h : ¬ s.HasBridge) {a b : Input}
    (ha : a ∈ s.inputs) (hb : b ∈ s.inputs) : a.sameOutcome b = true ↔
      (fun i => i ∈ s.inputs ∧ a.sameOutcome i = true) =
        fun i => i ∈ s.inputs ∧ b.sameOutcome i = true := by
  have htrans {a b c : Input} (ha : a ∈ s.inputs) (hb : b ∈ s.inputs) (hc : c ∈ s.inputs) :
      a.sameOutcome b = true → b.sameOutcome c = true → a.sameOutcome c = true :=
    Input.sameOutcome_trans_of_not_bridge fun hbridge => h ⟨a, ha, b, hb, c, hc, hbridge⟩
  constructor
  · intro hab
    have hba : b.sameOutcome a = true := (Input.sameOutcome_comm b a).trans hab
    funext i
    refine propext (and_congr_right fun hi => ?_)
    exact ⟨htrans hb ha hi hba, htrans ha hb hi hab⟩
  · intro hkey
    exact ((congrFun hkey b).mpr ⟨hb, b.sameOutcome_self⟩).2

/-- **The order of a set does not count exactly if it has no bridge**: then any two of its
arrangements do the same, and otherwise some two of them do not. -/
theorem sameOutcome_arrangements_iff (s : InputSet) :
    (∀ t u : InputSet, t.inputs.Perm s.inputs → u.inputs.Perm s.inputs → t.sameOutcome u = true) ↔
      ¬ s.HasBridge := by
  constructor
  · intro hall hbridge
    obtain ⟨t, u, ht, hu, hdiffer⟩ := exists_arrangements_of_bridge hbridge
    exact Bool.false_ne_true (hdiffer.symm.trans (hall t u ht hu))
  · intro hbridge t u ht hu
    have hkey : ∀ a ∈ t.inputs, ∀ b ∈ u.inputs, (a.sameOutcome b = true ↔ _) := fun a ha b hb =>
      sameOutcome_iff_of_not_hasBridge hbridge (ht.subset ha) (hu.subset hb)
    exact (sameOutcome_iff_perm hkey).mpr ((ht.trans hu.symm).map _)

/-- Three neighbouring strengths from a half on: the order of such a set does count. -/
theorem not_forall_sameOutcome_arranged : ¬ ∀ s t : InputSet, t.inputs.Perm s.inputs →
    s.sameOutcome t = true ∧ t.sameOutcome s = true := by
  intro hall
  let up (units : Nat) (h : (Single.finite false units).isFraction = true) : Input :=
    ⟨"up", "up", "up", .analog ⟨.finite false units, h⟩⟩
  let low := up (2 ^ 148) (by decide +kernel)
  let middle := up (2 ^ 148 + 2 ^ 125) (by decide +kernel)
  let high := up (2 ^ 148 + 2 ^ 126) (by decide +kernel)
  have hperm : [middle, high, low].Perm [low, middle, high] :=
    .trans (.cons middle (.swap low high [])) (.swap low middle [high])
  obtain ⟨hsame, _⟩ := hall ⟨[low, middle, high]⟩ ⟨[middle, high, low]⟩ hperm
  revert hsame
  decide +kernel

end InputSet

end ChatPad
