import ChatPad.Proofs.Bytes.Ends
import ChatPad.Proofs.Fragment.Lead

/-!
# Leads by byte offset

The lead of a fragment is computed once, before any text is seen, and the index of a grammar rests on it.
What it says is about the ends that are found later, from whatever offset of whatever text: whether the
offset itself is one of them, and what stands at the offset if another one is.

* `Bytes.offset_mem_places_iff`: the offset that a token begins at is among its ends in every text or in
  none;
* `Bytes.lead_predicts_endsAt`: what the lead of a fragment says, it says of every text and offset.
-/

namespace ChatPad.Bytes

/-- A token ends where it begins if it is empty. -/
theorem placeAfter_zero (before rest : List Char) :
    placeAfter before rest 0 = Text.byteLength before := by
  simp [placeAfter]

/-- **A token can end at the offset it begins at** exactly if its fragment is nullable. -/
theorem offset_mem_places_iff (f : Fragment) (before rest : List Char) :
    Text.byteLength before ∈ (f.ends rest).map (placeAfter before rest) ↔ f.lead.nullable = true := by
  rw [← Fragment.zero_mem_ends_iff f rest, List.mem_map]
  constructor
  · rintro ⟨n, hn, hplace⟩
    have hlength := Fragment.le_length_of_mem_ends hn
    rw [← placeAfter_zero before rest] at hplace
    have hzero : n = 0 := placeAfter_inj hlength (Nat.zero_le _) hplace
    rwa [hzero] at hn
  · intro h
    exact ⟨0, h, placeAfter_zero before rest⟩

/-- Where a token ends behind its offset, the character at the offset has a class of the lead. -/
theorem exists_cons_of_mem_places {f : Fragment} {before rest : List Char} {stop : Nat}
    (h : stop ∈ (f.ends rest).map (placeAfter before rest)) (hstop : Text.byteLength before < stop) :
    ∃ c later, rest = c :: later ∧ f.lead.classes.has (.ofChar c) = true := by
  obtain ⟨n, hn, rfl⟩ := List.mem_map.mp h
  apply Fragment.exists_cons_of_mem_ends hn
  -- no characters would lead back to the offset itself
  apply Nat.pos_of_ne_zero
  rintro rfl
  rw [placeAfter_zero] at hstop
  omega

/-- **What the lead of a fragment predicts.**  A fragment is nullable exactly if, in every text and from
every offset between characters on, the offset is one of the ends, and it is not nullable exactly if the
offset never is.  Wherever an end lies behind the offset, there is a character at the offset, and its
class is in the lead. -/
theorem lead_predicts_endsAt (f : Fragment) :
    (f.lead.nullable = true ↔ ∀ before rest, ∃ ends,
      endsAt f (before ++ rest) (Text.byteLength before) = .ok ends ∧ Text.byteLength before ∈ ends) ∧
    (f.lead.nullable = false ↔ ∀ before rest, ∃ ends,
      endsAt f (before ++ rest) (Text.byteLength before) = .ok ends ∧ Text.byteLength before ∉ ends) ∧
    ∀ before rest, ∃ ends, endsAt f (before ++ rest) (Text.byteLength before) = .ok ends ∧
      ∀ stop ∈ ends, Text.byteLength before < stop →
        ∃ c later, rest = c :: later ∧ f.lead.classes.has (.ofChar c) = true := by
  have hplaces (before rest : List Char) {p : List Nat → Prop} :
      (∃ ends, endsAt f (before ++ rest) (Text.byteLength before) = .ok ends ∧ p ends) ↔
        p ((f.ends rest).map (placeAfter before rest)) := by
    simp [endsAt_append]
  refine ⟨?_, ?_, ?_⟩
  · simp only [hplaces, offset_mem_places_iff, forall_const]
  · simp only [hplaces, offset_mem_places_iff, forall_const, Bool.not_eq_true]
  · intro before rest
    rw [hplaces]
    intro stop h hstop
    exact exists_cons_of_mem_places h hstop

/-- An optional point and a name: a digit is never the first character, and nothing is no token. -/
example :
    let f := Fragment.seq [.optional (.char '.'), .literal "up"]
    f.lead = ⟨⟨false, true, true⟩, false⟩ ∧ f.ends ".Up".toList = [3] ∧ f.ends "up".toList = [2] ∧
      f.ends "3".toList = [] := by decide

end ChatPad.Bytes
