import ChatPad.Proofs.Bytes.Definition
import ChatPad.Proofs.Bytes.Ends
import ChatPad.Proofs.Touch.OnScreen

/-!
# Tokens that are recognized, and then not read

A token is recognized twice: by the shape of its definition, and again when it is read, where a name
is compared once more and the bytes after it are taken apart, or the digits are cut out and counted.

* `Bytes.Entry.read_of_recognizes`: what the shape recognizes as a whole is also read, unless it is a
  point or a drag that is not on the screen.

A definition that is retargeted recognizes and refuses what its base does, so this goes by induction
on how often that was done.
-/

namespace ChatPad.Bytes.Entry

/-- The entries that a vocabulary is put together from. -/
inductive IsBuiltIn : Entry → Prop
  | button (name target : String) (keepsName : Bool) : IsBuiltIn (.button name target keepsName)
  | analog (name target : String) (keepsName : Bool) : IsBuiltIn (.analog name target keepsName)
  | touch (name : String) (g : Geometry) : IsBuiltIn (.touch name g)
  | drag (name : String) (g : Geometry) : IsBuiltIn (.drag name g)
  | asTouch {base : Entry} (name : String) (g : Geometry) (x y : Nat) (keepsName : Bool) :
      IsBuiltIn base → IsBuiltIn (.asTouch base name g x y keepsName)

/-- The text is a point or a drag for the screen of the innermost entry, and a coordinate in it is
not below the size of that screen. -/
def OffScreen : Entry → List Char → Prop
  | touch _ g, text => ∃ t : TypedPoint, text = t.text ∧ t.Beyond g
  | drag _ g, text => ∃ t u : TypedPoint, text = t.dragText u ∧ (t.Beyond g ∨ u.Beyond g)
  | asTouch base _ _ _ _ _, text => base.OffScreen text
  | _, _ => False

/-- The text is a token of the entry as a whole: where it ends is one of the ends that are found. -/
def Recognizes (entry : Entry) (text : String) : Prop :=
  ∃ ends, endsAt entry.definition.fragment text.toList 0 = .ok ends ∧
    Text.byteLength text.toList ∈ ends

variable {entry : Entry} {text : String}

/-! ## Shapes -/

/-- The whole text is recognized if it has the shape, as nothing shorter ends where the text does. -/
theorem recognizes_iff_matches :
    entry.Recognizes text ↔ entry.definition.fragment.Matches text.toList := by
  have hends : endsAt entry.definition.fragment text.toList 0 = .ok _ :=
    endsAt_append entry.definition.fragment [] text.toList
  have hwhole : placeAfter [] text.toList text.toList.length = Text.byteLength text.toList := by
    rw [placeAfter, List.take_length, List.nil_append]
  constructor
  · rintro ⟨ends, hok, hmem⟩
    obtain rfl := Except.ok.inj (hok.symm.trans hends)
    obtain ⟨n, hn, hplace⟩ := List.mem_map.mp hmem
    obtain rfl := placeAfter_inj (Fragment.le_length_of_mem_ends hn) (Nat.le_refl _)
      (hplace.trans hwhole.symm)
    obtain ⟨_, hmatches⟩ := (Fragment.mem_ends_iff _ _ _).mp hn
    rwa [List.take_length] at hmatches
  · intro hmatches
    refine ⟨_, hends, List.mem_map.mpr ⟨text.toList.length, ?_, hwhole⟩⟩
    refine (Fragment.mem_ends_iff _ _ _).mpr ⟨Nat.le_refl _, ?_⟩
    rwa [List.take_length]

theorem IsBuiltIn.builtIn (h : entry.IsBuiltIn) : entry.definition.BuiltIn := by
  induction h with
  | button name target keepsName => exact .button name target keepsName
  | analog name target keepsName => exact .analog name target keepsName
  | touch name g => exact .touch name g
  | drag name g => exact .drag name g
  | asTouch name g x y keepsName _ ih => exact .asTouch name g x y keepsName ih

/-! ## Reading -/

/-- What has the shape of a name with tenths is read. -/
theorem read_analog_ne_none {name target : String} {keepsName : Bool}
    (h : (Definition.analog name target keepsName).fragment.Matches text.toList) :
    (Definition.analog name target keepsName).read text ≠ none := by
  have hspells : (⟨name, target, keepsName, true⟩ : Name).Spells text.toList :=
    Name.spells_of_matches h
  obtain ⟨_, _, hread⟩ := Name.exists_read_of_spells hspells
  rw [String.ofList_toList] at hread
  exact Option.ne_none_iff_exists'.mpr ⟨_, hread⟩

/-- What has the shape of a point is read if it is on the screen. -/
theorem read_touch_eq_none_iff {name : String} {g : Geometry}
    (h : (Definition.touch name g).fragment.Matches text.toList) :
    (Definition.touch name g).read text = none ↔ (touch name g).OffScreen text.toList := by
  obtain ⟨t, htext, _⟩ := Geometry.pointFragment_matches_iff_exists.mp h
  rw [Definition.read_touch_text htext, ite_eq_right_iff]
  constructor
  · intro hnone
    exact ⟨t, htext, TypedPoint.not_onScreen_iff.mp fun hscreen => nomatch hnone hscreen⟩
  · rintro ⟨t', htext', hbeyond⟩ hscreen
    obtain rfl := TypedPoint.text_injective (htext.symm.trans htext')
    exact absurd hscreen (TypedPoint.not_onScreen_iff.mpr hbeyond)

/-- What has the shape of a drag is read if both its points are on the screen. -/
theorem read_drag_eq_none_iff {name : String} {g : Geometry}
    (h : (Definition.drag name g).fragment.Matches text.toList) :
    (Definition.drag name g).read text = none ↔ (drag name g).OffScreen text.toList := by
  obtain ⟨t, u, htext, _⟩ := Geometry.dragFragment_matches_iff.mp h
  rw [Definition.read_drag_text htext, ite_eq_right_iff]
  constructor
  · intro hnone
    refine ⟨t, u, htext, ?_⟩
    rw [← TypedPoint.not_onScreen_iff, ← TypedPoint.not_onScreen_iff, ← not_and_or]
    exact fun hscreen => nomatch hnone hscreen
  · rintro ⟨t', u', htext', hbeyond⟩ ⟨ht, hu⟩
    obtain ⟨rfl, rfl⟩ := TypedPoint.dragText_injective (htext.symm.trans htext')
    rcases hbeyond with hbeyond | hbeyond
    · exact absurd ht (TypedPoint.not_onScreen_iff.mpr hbeyond)
    · exact absurd hu (TypedPoint.not_onScreen_iff.mpr hbeyond)

/-- Retargeting reads whatever its base reads. -/
theorem read_asTouch_eq_none_iff {base : Definition} {name : String} {g : Geometry} {x y : Nat}
    {keepsName : Bool} :
    (base.asTouch name g x y keepsName).read text = none ↔ base.read text = none := by
  show (base.read text).bind _ = none ↔ _
  cases base.read text with
  | none => exact ⟨fun _ => rfl, fun _ => rfl⟩
  | some inner => exact ⟨nofun, nofun⟩

/-- **What has the shape of an entry is refused only off the screen.** -/
theorem IsBuiltIn.read_eq_none_iff (h : entry.IsBuiltIn)
    (hmatches : entry.definition.fragment.Matches text.toList) :
    entry.definition.read text = none ↔ entry.OffScreen text.toList := by
  induction h with
  | button => exact ⟨nofun, nofun⟩
  | analog => exact ⟨fun hnone => absurd hnone (read_analog_ne_none hmatches), nofun⟩
  | touch => exact read_touch_eq_none_iff hmatches
  | drag => exact read_drag_eq_none_iff hmatches
  | asTouch name g x y keepsName _ ih => exact read_asTouch_eq_none_iff.trans (ih hmatches)

/-- **What an entry recognizes as a whole it reads**, with the text as it was typed and as no marker,
or else it is off the screen. -/
theorem read_of_recognizes (hentry : entry.IsBuiltIn) (h : entry.Recognizes text) :
    ∃ answer, entry.read text = .ok answer ∧ entry.definition.read text = answer ∧
      (answer = none ↔ entry.OffScreen text.toList) ∧
      ∀ i, answer = some i → i.typed = text ∧ i.isHold = false ∧ i.isSide = false := by
  have hmatches := recognizes_iff_matches.mp h
  refine ⟨_, read_eq entry text, rfl, hentry.read_eq_none_iff hmatches, fun i hi => ?_⟩
  obtain ⟨htyped, hcontrol⟩ := hentry.builtIn.of_read hi
  exact ⟨htyped, hcontrol.no_marker⟩

/-- A drag that is retargeted twice refuses an end beyond the edge. -/
theorem read_of_recognizes_retargeted :
    let screen : Geometry := ⟨240, 160, 0, 0, 0, 0⟩
    let entry := asTouch (asTouch (drag "touch" screen) "pad" screen 4 2 true) "pad" screen 7 7 false
    entry.IsBuiltIn ∧ entry.Recognizes "0,0>239,160" ∧ entry.read "0,0>239,160" = .ok none := by
  intro screen entry
  have hentry : entry.IsBuiltIn := .asTouch _ _ _ _ _ (.asTouch _ _ _ _ _ (.drag _ _))
  have h : entry.Recognizes "0,0>239,160" := recognizes_iff_matches.mpr (by decide +kernel)
  have hoff : entry.OffScreen "0,0>239,160".toList :=
    ⟨.decimal 0 0, .decimal 239 160, by decide +kernel, .inr (.inr (by decide +kernel))⟩
  obtain ⟨answer, hread, _, hnone, _⟩ := read_of_recognizes hentry h
  rw [hnone.mpr hoff] at hread
  exact ⟨hentry, h, hread⟩

/-- The sign for Kelvin is a `k` of three bytes, and the point is looked for behind all of them. -/
example : ((analog "k" "k" true).read "\u212a.5").toOption.join.map Input.typed =
    some "\u212a.5" := by decide +kernel

end ChatPad.Bytes.Entry
