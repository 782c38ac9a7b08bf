import ChatPad.Proofs.Message.Language

/-!
# Vocabularies that leave one reading

In general a text has many readings.  It has one at most if the tokens of the vocabulary can be told
apart in front of any text that may follow them, and if no token begins with a sign of the grammar.
Then a token, a `+`, a `-`, a repeat digit and the next set never compete for the same character.

* `Unambiguous.reads_unique`: there is one reading at most;
* `Unambiguous.captures?_eq`: the search finds it.
-/

namespace ChatPad

/-! ## Signs -/

/-- The characters that may follow a name in a message and belong to the grammar: its two signs, the
point in front of tenths, and digits. -/
def IsSign (c : Char) : Prop := c = '+' ∨ c = '-' ∨ c = '.' ∨ Text.isDigit c = true

instance : DecidablePred IsSign := fun _ => inferInstanceAs (Decidable (_ ∨ _ ∨ _ ∨ _))

/-- The text is empty or begins with what is no sign. -/
def Fresh (text : List Char) : Prop := ∀ c ∈ text.head?, ¬ IsSign c

instance : DecidablePred Fresh
  | [] => isTrue (by simp [Fresh])
  | c :: _ => decidable_of_iff (¬ IsSign c) (by simp [Fresh])

/-- The text does not begin with a point. -/
def Pointless (text : List Char) : Prop := text.head? ≠ some '.'

theorem fresh_nil : Fresh [] := by simp [Fresh]

theorem not_fresh_cons {c : Char} {rest : List Char} (hc : IsSign c) : ¬ Fresh (c :: rest) :=
  fun h => h c rfl hc

theorem Fresh.append_of_ne_nil {text : List Char} (h : Fresh text) (hne : text ≠ [])
    (rest : List Char) : Fresh (text ++ rest) := by
  cases text with
  | nil => exact absurd rfl hne
  | cons c text => exact h

theorem isSign_digitChar {count : Nat} (h : count < 10) : IsSign (Nat.digitChar count) :=
  .inr (.inr (.inr (Text.isDigit_digitChar count h)))

theorem Limits.AllowsTimes.lt_ten {limits : Limits} {count : Nat} (h : limits.AllowsTimes count) :
    count < 10 := by
  have hnine : limits.largestRepeat ≤ 9 := Nat.min_le_right _ _
  have := h.2.2
  omega

/-! ## What makes readings unique -/

/-- The tokens of a vocabulary can be told apart: none begins with a sign, and no two begin the same
text, unless a point follows one of them. -/
structure Unambiguous (definitions : List Definition) : Prop where
  fresh : ∀ t : ReadToken, t.Valid definitions → Fresh t.word
  unique : ∀ t t' : ReadToken, t.Valid definitions → t'.Valid definitions →
    ∀ rest rest', Pointless rest → Pointless rest' → t.word ++ rest = t'.word ++ rest' → t = t'

variable {definitions : List Definition} {limits : Limits}

/-- A repeat digit is told by the next character. -/
theorem timesText_unique {times times' : Option Nat} {later later' : List Char}
    (htimes : ∀ count ∈ times, limits.AllowsTimes count)
    (htimes' : ∀ count ∈ times', limits.AllowsTimes count) (hlater : Fresh later)
    (hlater' : Fresh later') (h : timesText times ++ later = timesText times' ++ later') :
    times = times' ∧ later = later' := by
  cases times with
  | none =>
    cases times' with
    | none => exact ⟨rfl, h⟩
    | some count =>
      have hsign := isSign_digitChar (htimes' count rfl).lt_ten
      rw [show later = Nat.digitChar count :: later' from h] at hlater
      exact absurd hlater (not_fresh_cons hsign)
  | some count =>
    have hten := (htimes count rfl).lt_ten
    cases times' with
    | none =>
      rw [show later' = Nat.digitChar count :: later from h.symm] at hlater'
      exact absurd hlater' (not_fresh_cons (isSign_digitChar hten))
    | some count' =>
      obtain ⟨hdigit, hrest⟩ := List.cons.inj h
      have hvalue := congrArg Text.digitValue hdigit
      rw [Text.digitValue_digitChar count hten,
        Text.digitValue_digitChar count' (htimes' count' rfl).lt_ten] at hvalue
      exact ⟨by rw [hvalue], hrest⟩

/-- A repeat digit, or the next set, begins with no sign but a digit. -/
theorem ne_of_mem_head?_times {times : Option Nat} {later : List Char}
    (htimes : ∀ count ∈ times, limits.AllowsTimes count) (hlater : Fresh later) :
    ∀ c ∈ (timesText times ++ later).head?, c ≠ '+' ∧ c ≠ '-' ∧ c ≠ '.' := by
  cases times with
  | none =>
    intro c hc
    have hsign := hlater c hc
    simp only [IsSign, not_or] at hsign
    exact ⟨hsign.1, hsign.2.1, hsign.2.2.1⟩
  | some count =>
    rintro c ⟨⟩
    have hdigit := Text.isDigit_digitChar count (htimes count rfl).lt_ten
    have hne (sign : Char) (hsign : Text.isDigit sign = false) : Nat.digitChar count ≠ sign := by
      intro heq
      rw [heq, hsign] at hdigit
      cases hdigit
    exact ⟨hne '+' (by decide), hne '-' (by decide), hne '.' (by decide)⟩

/-- What is left of a set after its last token begins with neither `+` nor a point. -/
theorem ne_of_mem_head?_hold {held : Bool} {times : Option Nat} {later : List Char}
    (htimes : ∀ count ∈ times, limits.AllowsTimes count) (hlater : Fresh later) :
    ∀ c ∈ (holdText held ++ (timesText times ++ later)).head?, c ≠ '+' ∧ c ≠ '.' := by
  cases held with
  | false =>
    intro c hc
    have hne := ne_of_mem_head?_times htimes hlater c hc
    exact ⟨hne.1, hne.2.2⟩
  | true =>
    rintro c ⟨⟩
    decide

/-- After the tokens of a set, its hold marker and its repeat digit are told by the next character. -/
theorem holdTimes_unique {held held' : Bool} {times times' : Option Nat} {later later' : List Char}
    (htimes : ∀ count ∈ times, limits.AllowsTimes count)
    (htimes' : ∀ count ∈ times', limits.AllowsTimes count) (hlater : Fresh later)
    (hlater' : Fresh later')
    (h : holdText held ++ (timesText times ++ later) =
      holdText held' ++ (timesText times' ++ later')) :
    held = held' ∧ times = times' ∧ later = later' := by
  have hafter := timesText_unique htimes htimes' hlater hlater'
  cases held <;> cases held'
  · exact ⟨rfl, hafter h⟩
  · have hminus : '-' ∈ (timesText times ++ later).head? := congrArg List.head? h
    exact absurd rfl (ne_of_mem_head?_times htimes hlater '-' hminus).2.1
  · have hminus : '-' ∈ (timesText times' ++ later').head? := congrArg List.head? h.symm
    exact absurd rfl (ne_of_mem_head?_times htimes' hlater' '-' hminus).2.1
  · exact ⟨rfl, hafter (List.cons.inj h).2⟩

theorem SetRest.text_nil_append (held : Bool) (times : Option Nat) (later : List Char) :
    SetRest.text ⟨[], held, times⟩ ++ later = holdText held ++ (timesText times ++ later) := by
  rw [SetRest.text, moreText, List.flatMap_nil, List.nil_append, List.append_assoc]

theorem SetRest.text_cons_append (t : ReadToken) (more : List ReadToken) (held : Bool)
    (times : Option Nat) (later : List Char) : SetRest.text ⟨t :: more, held, times⟩ ++ later =
      '+' :: (t.word ++ (SetRest.text ⟨more, held, times⟩ ++ later)) := by
  rw [SetRest.text_cons, List.cons_append, List.append_assoc]

/-- What follows a token begins with no point. -/
theorem SetRest.pointless {rest : SetRest} (htimes : ∀ count ∈ rest.times, limits.AllowsTimes count)
    {later : List Char} (hlater : Fresh later) : Pointless (rest.text ++ later) := by
  obtain ⟨more, held, times⟩ := rest
  intro hpoint
  cases more with
  | nil =>
    rw [SetRest.text_nil_append] at hpoint
    exact (ne_of_mem_head?_hold htimes hlater '.' hpoint).2 rfl
  | cons t more =>
    rw [SetRest.text_cons] at hpoint
    cases hpoint

namespace Unambiguous

variable (hvocabulary : Unambiguous definitions)

include hvocabulary

/-- A reading begins with a token, which begins with no sign. -/
theorem fresh_text {sets : Reading} (hsets : ∀ set ∈ sets, set.Valid definitions limits) :
    Fresh (Reading.text sets) := by
  cases sets with
  | nil => exact fresh_nil
  | cons set later =>
    have hfirst := (hsets set List.mem_cons_self).first
    have hword := hvocabulary.fresh set.first hfirst
    show Fresh (set.first.word ++ set.toSetRest.text ++ Reading.text later)
    rw [List.append_assoc]
    exact hword.append_of_ne_nil hfirst.ne_nil _

/-- After a token, a set is told by its text. -/
theorem rest_unique {held held' : Bool} {times times' : Option Nat} {later later' : List Char}
    (htimes : ∀ count ∈ times, limits.AllowsTimes count)
    (htimes' : ∀ count ∈ times', limits.AllowsTimes count) (hlater : Fresh later)
    (hlater' : Fresh later') (more : List ReadToken) (hmore : ∀ t ∈ more, t.Valid definitions) :
    ∀ more' : List ReadToken, (∀ t ∈ more', t.Valid definitions) →
      SetRest.text ⟨more, held, times⟩ ++ later = SetRest.text ⟨more', held', times'⟩ ++ later' →
      more = more' ∧ held = held' ∧ times = times' ∧ later = later' := by
  induction more with
  | nil =>
    intro more' _ h
    cases more' with
    | nil =>
      rw [SetRest.text_nil_append, SetRest.text_nil_append] at h
      exact ⟨rfl, holdTimes_unique htimes htimes' hlater hlater' h⟩
    | cons t more' =>
      rw [SetRest.text_nil_append, SetRest.text_cons_append] at h
      have hplus := ne_of_mem_head?_hold htimes hlater '+' (congrArg List.head? h)
      exact absurd rfl hplus.1
  | cons t more ih =>
    intro more' hmore' h
    cases more' with
    | nil =>
      rw [SetRest.text_nil_append, SetRest.text_cons_append] at h
      have hplus := ne_of_mem_head?_hold htimes' hlater' '+' (congrArg List.head? h.symm)
      exact absurd rfl hplus.1
    | cons t' more' =>
      rw [SetRest.text_cons_append, SetRest.text_cons_append] at h
      have ht := hmore t List.mem_cons_self
      have ht' := hmore' t' List.mem_cons_self
      have htext := (List.cons.inj h).2
      obtain rfl := hvocabulary.unique t t' ht ht' _ _ (SetRest.pointless htimes hlater)
        (SetRest.pointless htimes' hlater') htext
      obtain ⟨rfl, hrest⟩ := ih (fun t ht => hmore t (List.mem_cons_of_mem _ ht)) more'
        (fun t ht => hmore' t (List.mem_cons_of_mem _ ht)) (List.append_cancel_left htext)
      exact ⟨rfl, hrest⟩

/-- The sets of a message are told by its text. -/
theorem text_injective (sets : Reading) (hsets : ∀ set ∈ sets, set.Valid definitions limits) :
    ∀ sets' : Reading, (∀ set ∈ sets', set.Valid definitions limits) →
      Reading.text sets = Reading.text sets' → sets = sets' := by
  induction sets with
  | nil =>
    intro sets' hsets' h
    cases sets' with
    | nil => rfl
    | cons set' later' =>
      exact absurd h.symm (Reading.text_ne_nil (hsets' set' List.mem_cons_self) later')
  | cons set later ih =>
    intro sets' hsets' h
    cases sets' with
    | nil => exact absurd h (Reading.text_ne_nil (hsets set List.mem_cons_self) later)
    | cons set' later' =>
      obtain ⟨⟨more, held, times⟩, first⟩ := set
      obtain ⟨⟨more', held', times'⟩, first'⟩ := set'
      obtain ⟨hset, hlater⟩ := List.forall_mem_cons.mp hsets
      obtain ⟨hset', hlater'⟩ := List.forall_mem_cons.mp hsets'
      have hfresh := hvocabulary.fresh_text hlater
      have hfresh' := hvocabulary.fresh_text hlater'
      have htext : first.word ++ (SetRest.text ⟨more, held, times⟩ ++ Reading.text later) =
          first'.word ++ (SetRest.text ⟨more', held', times'⟩ ++ Reading.text later') := by
        rw [← List.append_assoc, ← List.append_assoc]
        exact h
      obtain rfl := hvocabulary.unique first first' hset.first hset'.first _ _
        (SetRest.pointless hset.rest.times hfresh) (SetRest.pointless hset'.rest.times hfresh') htext
      obtain ⟨rfl, rfl, rfl, hrest⟩ := hvocabulary.rest_unique hset.rest.times hset'.rest.times
        hfresh hfresh' more hset.rest.more more' hset'.rest.more (List.append_cancel_left htext)
      rw [ih hlater later' hlater' hrest]

/-- **There is one reading at most.** -/
theorem reads_unique {text : List Char} {sets sets' : Reading}
    (h : Reads definitions limits text sets) (h' : Reads definitions limits text sets') :
    sets = sets' :=
  hvocabulary.text_injective sets h.valid sets' h'.valid (h.text.symm.trans h'.text)

/-- **The search finds the reading.** -/
theorem captures?_eq {g : Grammar} (hg : Grammar.compile definitions limits = .ok g)
    {text : List Char} {sets : Reading} (h : Reads definitions limits text sets) :
    g.captures? text = some (Reading.captures 0 sets) := by
  cases hcaptures : g.captures? text with
  | none => exact absurd hcaptures (Grammar.captures?_ne_none_of_reads hg h)
  | some captures =>
    obtain ⟨sets', h', rfl⟩ := Grammar.exists_reads_of_captures? hg hcaptures
    rw [hvocabulary.reads_unique h h']

end Unambiguous

end ChatPad
