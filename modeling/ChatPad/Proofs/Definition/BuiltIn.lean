import ChatPad.Proofs.Vocabulary.Names
import ChatPad.Touch.Definition

/-!
# Built-in definitions

The vocabulary of a layout is put together from five kinds of definitions: buttons, analog inputs,
points and drags on a touchscreen, and definitions of any kind that tap a fixed point instead.

* `Definition.BuiltIn.of_read`: whatever such a definition reads, it reads it as a control, and keeps
  the text it was typed as.
-/

namespace ChatPad

/-- What does something to the controller, and is no marker of its set. -/
inductive InputKind.IsControl : InputKind → Prop
  | press {kind : InputKind} : kind.IsPress → IsControl kind
  | touch (x y : Nat) : IsControl (.touch x y)
  | drag (x y x2 y2 : Nat) : IsControl (.drag x y x2 y2)

theorem InputKind.IsControl.no_marker {i : Input} (h : i.kind.IsControl) :
    i.isHold = false ∧ i.isSide = false := by
  rw [Input.isHold, Input.isSide]
  generalize i.kind = kind at h
  cases h with
  | press hpress =>
    rcases hpress with rfl | ⟨s, rfl, _⟩
    · exact ⟨rfl, rfl⟩
    · exact ⟨rfl, rfl⟩
  | touch => exact ⟨rfl, rfl⟩
  | drag => exact ⟨rfl, rfl⟩

namespace Definition

/-- The definitions that a vocabulary is put together from. -/
inductive BuiltIn : Definition → Prop
  | button (name target : String) (keepsName : Bool) : BuiltIn (.button name target keepsName)
  | analog (name target : String) (keepsName : Bool) : BuiltIn (.analog name target keepsName)
  | touch (name : String) (g : Geometry) : BuiltIn (.touch name g)
  | drag (name : String) (g : Geometry) : BuiltIn (.drag name g)
  | asTouch {base : Definition} (screen : String) (g : Geometry) (x y : Nat) (keepsName : Bool) :
      BuiltIn base → BuiltIn (base.asTouch screen g x y keepsName)

/-! ## What is read -/

variable {text : String} {i : Input}

/-- Whatever follows a name, it can only stand for a strength that can be typed. -/
theorem mem_strengths_of_suffixStrength {suffix : List Char} {s : Single}
    (h : suffixStrength suffix = some s) : s ∈ strengths := by
  unfold suffixStrength at h
  split at h
  · obtain rfl := Option.some.inj h
    exact List.mem_cons_self
  · rename_i digit
    split at h
    · rename_i hrange
      obtain rfl := Option.some.inj h
      have hlow : 49 ≤ digit.toNat := hrange.1
      have hhigh : digit.toNat ≤ 57 := hrange.2
      have hvalue : Text.digitValue digit = digit.toNat - 48 := rfl
      exact mem_strengths_of_digit (by omega) (by omega)
    · cases h
  · cases h

theorem of_read_analog {name target : String} {keepsName : Bool}
    (h : (analog name target keepsName).read text = some i) : i.typed = text ∧ i.kind.IsPress := by
  obtain ⟨_, _, h⟩ := Option.bind_eq_some_iff.mp h
  obtain ⟨s, hs, h⟩ := Option.bind_eq_some_iff.mp h
  rw [Input.analog?] at h
  split at h
  · obtain rfl := Option.some.inj h
    exact ⟨rfl, .inr ⟨_, rfl, mem_strengths_of_suffixStrength hs⟩⟩
  · cases h

theorem of_read_touch {name : String} {g : Geometry} (h : (touch name g).read text = some i) :
    ∃ x y, g.readOnScreen text.toList = some (x, y) ∧ i = ⟨text, name, text, .touch x y⟩ := by
  simp only [touch, Option.bind_eq_bind, Option.bind_eq_some_iff] at h
  obtain ⟨⟨x, y⟩, hpoint, h⟩ := h
  exact ⟨x, y, hpoint, (Option.some.inj h).symm⟩

theorem of_read_drag {name : String} {g : Geometry} (h : (drag name g).read text = some i) :
    ∃ start rest x y x2 y2, text.toList = start ++ '>' :: rest ∧
      g.readOnScreen start = some (x, y) ∧ g.readOnScreen rest = some (x2, y2) ∧
      i = ⟨text, name, text, .drag x y x2 y2⟩ := by
  simp only [drag] at h
  split at h
  · rename_i rest hrest
    simp only [Option.bind_eq_bind, Option.bind_eq_some_iff] at h
    obtain ⟨⟨x, y⟩, hstart, ⟨x2, y2⟩, hstop, h⟩ := h
    have htext := List.takeWhile_append_dropWhile (p := (· != '>')) (l := text.toList)
    rw [hrest] at htext
    exact ⟨_, rest, x, y, x2, y2, htext.symm, hstart, hstop, (Option.some.inj h).symm⟩
  · cases h

theorem of_read_asTouch {base : Definition} {screen : String} {g : Geometry} {x y : Nat}
    {keepsName : Bool} (h : (base.asTouch screen g x y keepsName).read text = some i) :
    ∃ inner, base.read text = some inner ∧
      i = ⟨if keepsName then inner.displayed else pointText (g.transform x y), screen, text,
        .touch (g.transform x y).1 (g.transform x y).2⟩ := by
  simp only [asTouch, Option.bind_eq_bind, Option.bind_eq_some_iff] at h
  obtain ⟨inner, hinner, h⟩ := h
  exact ⟨inner, hinner, (Option.some.inj h).symm⟩

/-- **What is read is a control**, and keeps the text it was typed as. -/
theorem BuiltIn.of_read {d : Definition} (hd : d.BuiltIn) (h : d.read text = some i) :
    i.typed = text ∧ i.kind.IsControl := by
  cases hd with
  | button =>
    obtain rfl := Option.some.inj h
    exact ⟨rfl, .press (.inl rfl)⟩
  | analog =>
    obtain ⟨htyped, hpress⟩ := of_read_analog h
    exact ⟨htyped, .press hpress⟩
  | touch =>
    obtain ⟨x, y, _, rfl⟩ := of_read_touch h
    exact ⟨rfl, .touch x y⟩
  | drag =>
    obtain ⟨_, _, x, y, x2, y2, _, _, _, rfl⟩ := of_read_drag h
    exact ⟨rfl, .drag x y x2 y2⟩
  | asTouch =>
    obtain ⟨_, _, rfl⟩ := of_read_asTouch h
    exact ⟨rfl, .touch _ _⟩

end Definition

end ChatPad
