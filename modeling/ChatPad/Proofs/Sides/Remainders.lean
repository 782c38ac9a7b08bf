import ChatPad.Parser

/-!
# The remainders of a text

Taking side letters off the front of a text leaves shorter and shorter remainders.
`SidePrefixes.remainders` lists them, the text itself first, and `SidePrefixes.disambiguate` is a
search along this list: `disambiguate_eq_firstRecognized` holds whatever recognizing a text does
besides, as it may keep a log.  Of the log nothing is left in `Logged.value_firstRecognized`, where
the value of the search is the first that is there.
-/

namespace ChatPad

/-- What is left of a text, and the side of the letter that was taken off last, if any was. -/
structure Remainder where
  text : String
  side : Option Side
deriving DecidableEq, Repr

namespace SidePrefixes

/-! ## The list of remainders -/

/-- What is left each time that a side letter, and a separator after it, is taken off. -/
def remaindersAfter (p : SidePrefixes) : List Char → List Remainder
  | [] => []
  | c :: rest =>
    match p.sideOf c with
    | none => []
    | some side =>
      ⟨String.ofList (dropSeparator rest), some side⟩ :: remaindersAfter p (dropSeparator rest)
termination_by text => text.length
decreasing_by
  have := length_dropSeparator_le rest
  simp only [List.length_cons]; omega

/-- What is tried of a text, in order: first the whole text, then what is left of it. -/
def remainders (p : SidePrefixes) (text : String) : List Remainder :=
  ⟨text, none⟩ :: if p.allowDirected then p.remaindersAfter text.toList else []

variable {p : SidePrefixes}

/-- After a letter was taken off there is a side. -/
theorem side_isSome_of_mem_remaindersAfter {text : List Char} {r : Remainder}
    (h : r ∈ p.remaindersAfter text) : r.side.isSome = true := by
  induction text using remaindersAfter.induct p with
  | case1 => simp [remaindersAfter] at h
  | case2 c rest hside => simp [remaindersAfter, hside] at h
  | case3 c rest side hside ih =>
    rw [remaindersAfter, hside] at h
    rcases List.mem_cons.mp h with rfl | hlater
    · rfl
    · exact ih hlater

/-! ## The search along the list -/

section Search

variable {m : Type → Type} [Monad m] {α : Type}

/-- Recognizes the first remainder that can be recognized, and tells its side. -/
def firstRecognized (recognize : String → m (Option α)) :
    List Remainder → m (Option (α × Option Side))
  | [] => pure none
  | r :: later => do
    match ← recognize r.text with
    | some value => pure (some (value, r.side))
    | none => firstRecognized recognize later

theorem strip_eq_firstRecognized (p : SidePrefixes) (recognize : String → m (Option α))
    (text : List Char) :
    p.strip recognize text = firstRecognized recognize (p.remaindersAfter text) := by
  induction text using remaindersAfter.induct p with
  | case1 => rw [strip, remaindersAfter, firstRecognized]
  | case2 c rest hside => rw [strip, remaindersAfter, hside, firstRecognized]
  | case3 c rest side hside ih =>
    rw [strip, remaindersAfter, hside, firstRecognized]
    refine congrArg (bind _) (funext fun found => ?_)
    cases found with
    | none => exact ih
    | some value => rfl

/-- **Taking letters off is a search along the remainders.** -/
theorem disambiguate_eq_firstRecognized (p : SidePrefixes) (recognize : String → m (Option α))
    (text : String) :
    p.disambiguate recognize text = firstRecognized recognize (p.remainders text) := by
  rw [disambiguate, remainders, firstRecognized]
  refine congrArg (bind _) (funext fun found => ?_)
  cases found with
  | none =>
    cases p.allowDirected with
    | false => rfl
    | true => exact strip_eq_firstRecognized p recognize text.toList
  | some value => rfl

end Search

end SidePrefixes

/-- Apart from the log, the search finds the first value that is there. -/
theorem Logged.value_firstRecognized {ε α : Type} (recognize : String → Logged ε (Option α))
    (rs : List Remainder) :
    (SidePrefixes.firstRecognized recognize rs).value =
      rs.findSome? fun r => (recognize r.text).value.map fun value => (value, r.side) := by
  induction rs with
  | nil => rfl
  | cons r later ih =>
    rw [SidePrefixes.firstRecognized, List.findSome?_cons, ← ih]
    show (match (recognize r.text).value with
      | some value => (pure (some (value, r.side)) : Logged ε _)
      | none => SidePrefixes.firstRecognized recognize later).value = _
    cases (recognize r.text).value with
    | none => rfl
    | some value => rfl

end ChatPad
