import ChatPad.Proofs.Definition.BuiltIn
import ChatPad.Proofs.Outcome.Untyped
import ChatPad.Proofs.Text.AsciiCase
import ChatPad.Proofs.Touch.Point

/-!
# Definitions that case does not matter to

Built-in definitions read a token and its lower case as the same input, but for the text that is kept
(`Definition.BuiltIn.read_toLower`).  Names are compared letter by letter, tenths and points have no
letters at all.
-/

namespace ChatPad

/-- What is read off texts without letters only is read off a text as off its lower case. -/
theorem map_toLower_of_letterless {α : Type} {f : List Char → Option α}
    (hf : ∀ text a, f text = some a → ∀ c ∈ text, Text.isAlphabetic c = false) (text : List Char) :
    f (text.map Char.toLower) = f text := by
  by_cases hletters : ∀ c ∈ text, Text.isAlphabetic c = false
  · rw [Text.map_toLower_of_not_isAlphabetic hletters]
  · have hnone : f text = none :=
      Option.eq_none_iff_forall_ne_some.mpr fun a ha => hletters (hf text a ha)
    -- a letter stays one in lower case
    have hlower : f (text.map Char.toLower) = none := by
      refine Option.eq_none_iff_forall_ne_some.mpr fun a ha => hletters fun c hc => ?_
      rw [← Text.isAlphabetic_eq_of_sameLetter (Text.sameLetter_toLower_self c)]
      exact hf _ a ha _ (List.mem_map_of_mem hc)
    rw [hnone, hlower]

theorem Text.not_isAlphabetic_of_isDigit {c : Char} (h : Text.isDigit c = true) :
    Text.isAlphabetic c = false := by
  cases hletter : Text.isAlphabetic c with
  | false => rfl
  | true =>
    rw [Text.not_isDigit_of_isAlphabetic hletter] at h
    cases h

/-- A point on the screen is typed without letters. -/
theorem Geometry.letterless_of_readOnScreen {g : Geometry} {text : List Char} {point : Nat × Nat}
    (h : g.readOnScreen text = some point) : ∀ c ∈ text, Text.isAlphabetic c = false := by
  simp only [readOnScreen, Option.bind_eq_bind, Option.bind_eq_some_iff] at h
  obtain ⟨typed, htyped, _⟩ := h
  obtain ⟨xs, ys, rfl, hx, hy, _⟩ := readPoint_eq_some_iff.mp htyped
  intro c hc
  rcases List.mem_append.mp hc with hc | hc
  · exact Text.not_isAlphabetic_of_isDigit (hx.digits c hc)
  · rcases List.mem_cons.mp hc with rfl | hc
    · decide
    · exact Text.not_isAlphabetic_of_isDigit (hy.digits c hc)

namespace Definition

theorem letterless_of_suffixStrength {suffix : List Char} {strength : Single}
    (h : suffixStrength suffix = some strength) : ∀ c ∈ suffix, Text.isAlphabetic c = false := by
  unfold suffixStrength at h
  split at h
  · exact nofun
  · rename_i digit
    split at h
    · rename_i hrange
      have hdigit : Text.isDigit digit = true := by
        rw [Text.isDigit, Bool.and_eq_true, decide_eq_true_eq, decide_eq_true_eq]
        exact ⟨Char.le_trans (by decide) hrange.1, hrange.2⟩
      rw [List.forall_mem_cons, List.forall_mem_singleton]
      exact ⟨by decide, Text.not_isAlphabetic_of_isDigit hdigit⟩
    · cases h
  · cases h

/-- A definition that reads no letters reads a text as its lower case. -/
theorem read_toLower_of_letterless {d : Definition}
    (hd : ∀ text i, d.read text = some i → ∀ c ∈ text.toList, Text.isAlphabetic c = false)
    (text : String) : d.read text.toLower = d.read text := by
  have hread := map_toLower_of_letterless (f := fun word => d.read (String.ofList word))
    (fun word i hi => by simpa using hd _ i hi) text.toList
  simpa [toLower_ofList] using hread

/-- **Built-in definitions read a text as its lower case**, but for the text that is kept. -/
theorem BuiltIn.read_toLower {d : Definition} (hd : d.BuiltIn) (text : String) :
    (d.read text.toLower).map Input.untyped = (d.read text).map Input.untyped := by
  induction hd with
  | button => rfl
  | analog name target keepsName =>
    have hinput (displayed typed typed' : String) (strength : Single) :
        (Input.analog? displayed target typed strength).toOption.map Input.untyped =
          (Input.analog? displayed target typed' strength).toOption.map Input.untyped := by
      unfold Input.analog?
      split <;> rfl
    have hsuffix := map_toLower_of_letterless (fun _ _ => letterless_of_suffixStrength)
      (text.toList.drop name.toList.length)
    dsimp only [Definition.analog]
    rw [toList_toLower, Fragment.beginsWith_toLower, ← List.map_drop, hsuffix]
    cases Fragment.beginsWith name.toList text.toList with
    | false => rfl
    | true =>
      cases Definition.suffixStrength (text.toList.drop name.toList.length) with
      | none => rfl
      | some s => exact hinput _ _ _ s
  | touch name g =>
    refine congrArg _ (read_toLower_of_letterless (fun text i hi => ?_) text)
    obtain ⟨_, _, hpoint, _⟩ := of_read_touch hi
    exact Geometry.letterless_of_readOnScreen hpoint
  | drag name g =>
    refine congrArg _ (read_toLower_of_letterless (fun text i hi => ?_) text)
    obtain ⟨start, rest, _, _, _, _, htext, hstart, hrest, _⟩ := of_read_drag hi
    rw [htext]
    intro c hc
    rcases List.mem_append.mp hc with hc | hc
    · exact Geometry.letterless_of_readOnScreen hstart c hc
    · rcases List.mem_cons.mp hc with rfl | hc
      · decide
      · exact Geometry.letterless_of_readOnScreen hrest c hc
  | @asTouch base screen g x y keepsName _ ih =>
    -- of what the base reads, only what is displayed is used
    let point := g.transform x y
    let retarget (inner : Input) : Input :=
      ⟨if keepsName then inner.displayed else pointText point, screen, "", .touch point.1 point.2⟩
    have hread (typed : String) :
        ((base.asTouch screen g x y keepsName).read typed).map Input.untyped =
          ((base.read typed).map Input.untyped).map retarget := by
      show ((base.read typed).bind _).map _ = _
      cases base.read typed <;> rfl
    rw [hread, hread, ih]

end Definition

end ChatPad
