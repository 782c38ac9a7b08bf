import ChatPad.Proofs.Layout.Layers
import ChatPad.Proofs.Rules.Allowed

/-!
# Stricter rules

Rules are stricter than others if they have all the conflicts and all the lone buttons of the others,
and allow several touches only where the others do.  Stricter rules allow less
(`Rules.Allows.of_stricter`), and so the layer of rules answers less.

With side letters this is not the whole story: where the stricter rules turn a remainder down, the
search goes on to the next one.  The answer of the looser rules is then that of an earlier remainder,
but there is one (`Rules.Stricter.exists_findSome?`).
-/

namespace ChatPad

namespace Rules

/-- The rules `strict` forbid all that the rules `loose` forbid. -/
structure Stricter (strict loose : Rules) : Prop where
  conflicts : ∀ a b, loose.isConflict a b = true → strict.isConflict a b = true
  lone : ∀ button ∈ loose.lone, button ∈ strict.lone
  multitouch : strict.multitouch = true → loose.multitouch = true

variable {strict loose : Rules} {base : Parser} {text : String} {sequence : InputSequence}

/-- Rules with more conflicting pairs and more lone buttons are stricter. -/
theorem Stricter.of_subset (hconflicts : loose.conflicts ⊆ strict.conflicts)
    (hlone : loose.lone ⊆ strict.lone)
    (hmultitouch : strict.multitouch = true → loose.multitouch = true) : strict.Stricter loose where
  conflicts a b h := by
    rw [isConflict_eq_true_iff] at h ⊢
    exact h.imp (hconflicts ·) (hconflicts ·)
  lone _ hbutton := hlone hbutton
  multitouch := hmultitouch

/-! ## What the rules allow -/

theorem Peaceful.of_stricter (h : strict.Stricter loose) {inputs : List Input}
    (hpeaceful : strict.Peaceful inputs) : loose.Peaceful inputs := by
  intro a ha b hb hne
  have hstrict := hpeaceful a ha b hb hne
  rw [← not_or, ← isConflict_eq_true_iff] at hstrict ⊢
  exact fun hconflict => hstrict (h.conflicts _ _ hconflict)

/-- **What stricter rules allow is allowed.**  Each of the five things that rules ask of a set asks more
of it if the rules are stricter, or the same. -/
theorem Allows.of_stricter (h : strict.Stricter loose) {inputs : List Input}
    (hallows : strict.Allows inputs) : loose.Allows inputs where
  lone := hallows.lone.imp id fun halone i hi hmem => halone i hi (h.lone _ hmem)
  buttons := hallows.buttons
  touches := hallows.touches
  fit := hallows.fit.imp h.multitouch id
  peaceful := hallows.peaceful.of_stricter h

theorem Admits.of_stricter (h : strict.Stricter loose) (hadmits : strict.Admits base text sequence) :
    loose.Admits base text sequence where
  parsed := hadmits.parsed
  keeps := by
    have hkeeps := hadmits.keeps
    rw [violation?_eq_none_iff] at hkeeps ⊢
    exact fun set hset => (hkeeps set hset).of_stricter h

/-! ## What is answered -/

namespace Stricter

theorem value_checked (h : strict.Stricter loose)
    (hanswer : (strict.checked base text).value = some sequence) :
    (loose.checked base text).value = some sequence := by
  rw [value_checked_eq_some_iff] at hanswer ⊢
  exact hanswer.of_stricter h

/-- **The first answer among remainders.**  If the stricter rules have one, so have the looser ones: the
same, or that of a remainder that only the stricter rules turn down. -/
theorem exists_findSome? (h : strict.Stricter loose)
    {mark : Remainder → InputSequence → InputSequence} {remainders : List Remainder}
    {answer : InputSequence}
    (hanswer : (remainders.findSome? fun r =>
      (strict.checked base r.text).value.map (mark r)) = some answer) :
    ∃ other, (remainders.findSome? fun r =>
        (loose.checked base r.text).value.map (mark r)) = some other ∧
      (other = answer ∨ ∃ r ∈ remainders, ∃ sequence, loose.Admits base r.text sequence ∧
        ¬ strict.Admits base r.text sequence ∧ other = mark r sequence) := by
  induction remainders with
  | nil => cases hanswer
  | cons r later ih =>
    rw [List.findSome?_cons] at hanswer ⊢
    cases hstrict : (strict.checked base r.text).value with
    | some sequence =>
      rw [hstrict] at hanswer
      rw [h.value_checked hstrict]
      exact ⟨_, rfl, .inl (Option.some.inj hanswer)⟩
    | none =>
      rw [hstrict] at hanswer
      cases hloose : (loose.checked base r.text).value with
      | some sequence =>
        exact ⟨_, rfl, .inr ⟨r, List.mem_cons_self, sequence, value_checked_eq_some_iff.mp hloose,
          value_checked_eq_none_iff.mp hstrict sequence, rfl⟩⟩
      | none =>
        obtain ⟨other, hother, hcases⟩ := ih hanswer
        refine ⟨other, hother, hcases.imp id ?_⟩
        rintro ⟨r, hr, hadmits⟩
        exact ⟨r, List.mem_cons_of_mem _ hr, hadmits⟩

/-- **Stricter rules only restrict.**  Whatever the parser below the rules is: what is accepted with the
stricter rules is accepted with the looser ones.  Without sides it is the same sequence.  With sides it
is the same sequence as well, or else that of a remainder that the stricter rules alone have turned
down. -/
theorem answers (h : strict.Stricter loose) (base : Parser) (text : String) :
    (∀ sequence, (strict.checked base text).value = some sequence →
      (loose.checked base text).value = some sequence) ∧
    ∀ (p : SidePrefixes) (answer : InputSequence),
      (p.marked (strict.checked base) text).value = some answer →
      ∃ other, (p.marked (loose.checked base) text).value = some other ∧
        (other = answer ∨ ∃ r ∈ p.remainders text, ∃ sequence,
          loose.Admits base r.text sequence ∧ ¬ strict.Admits base r.text sequence ∧
            other = sequence.onSide r.side) := by
  refine ⟨fun sequence => h.value_checked, fun p answer hanswer => ?_⟩
  rw [SidePrefixes.value_marked] at hanswer ⊢
  exact h.exists_findSome? hanswer

/-- Both rules answer `la+a` alike, although one of them lets `b` conflict with `la`.  That one answers
`la+b` as what is left of it on the left side, so the other one answers it as well. -/
theorem answers_conflict :
    let strict : Rules := { conflicts := [("b", "la")], lone := ["wait", "stop"] }
    let loose : Rules := { multitouch := true }
    let la : Input := ⟨"la", "la", "la", .button⟩
    let a : Input := ⟨"a", "a", "a", .button⟩
    let b : Input := ⟨"b", "b", "b", .button⟩
    let p : SidePrefixes := {}
    strict.Stricter loose ∧ ∃ plain, (Layout.ofSteps [.buttons ["la", "a", "b"]]).plain = .ok plain ∧
      (loose.checked plain.parse "la+a").value = some ⟨[⟨[la, a]⟩]⟩ ∧
      (p.marked (strict.checked plain.parse) "la+b").value =
        some ⟨[⟨[a, b, .sideMarker (some .left) true]⟩]⟩ ∧
      ((p.marked (loose.checked plain.parse)) "la+b").value.isSome = true := by
  intro strict loose la a b p
  have hstricter : strict.Stricter loose := .of_subset (by decide) (by decide) fun _ => rfl
  obtain ⟨plain, hplain, hwhole, hbroken, hrest, -⟩ := Layout.exists_plain_joined
  have hkept : (strict.checked plain.parse "la+a").value = some ⟨[⟨[la, a]⟩]⟩ :=
    value_checked_eq_some_iff.mpr ⟨hwhole, by decide⟩
  have hmarked : (p.marked (strict.checked plain.parse) "la+b").value =
      some ⟨[⟨[a, b, .sideMarker (some .left) true]⟩]⟩ := by
    rw [SidePrefixes.value_marked, findSome?_checked_eq_some_iff]
    exact ⟨[⟨"la+b", none⟩], ⟨"a+b", some .left⟩, [], by decide +kernel,
      List.forall_mem_singleton.mpr (not_admits_of_breaks hbroken (by decide)), _,
      ⟨hrest, by decide⟩, rfl⟩
  obtain ⟨other, hother, _⟩ := (answers hstricter plain.parse "la+b").2 p _ hmarked
  exact ⟨hstricter, plain, hplain, (answers hstricter plain.parse "la+a").1 _ hkept, hmarked,
    Option.isSome_iff_exists.mpr ⟨other, hother⟩⟩

end Stricter

end Rules

end ChatPad
