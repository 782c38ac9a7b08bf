import ChatPad.Config
import ChatPad.Proofs.Layout.Layers
import ChatPad.Proofs.Layout.Mistakes
import ChatPad.Proofs.Parser.Plain

/-!
# Mistakes of configurations

Whether a configuration describes a parser is decided in three places: conflicts and side letters are
read while it becomes a layout, the size of the touchscreen is noted on the way and reported only when
the layout is built, and the vocabulary and the limits are looked at when its grammar is compiled.

`Config.IsValid` has all that a configuration needs, and `Config.FirstMistake` says which mistake is
reported if there are several, both without going through any of these places:

* `Config.isValid_or_firstMistake`: a configuration is valid or has a first mistake;
* `Config.exists_plain_of_isValid`, `Config.plain_of_firstMistake`: what follows when it is built;
* `Config.build_verdict`: so building decides it.
-/

namespace ChatPad.Config

/-! ## What a configuration needs -/

variable {c : Config}

/-- Every entry for a conflict names two buttons. -/
def HasPairs (c : Config) : Prop := ∀ entry ∈ c.conflicts, entry.length = 2

/-- The letters of the sides are single characters. -/
def HasLetters (c : Config) : Prop := ∀ s ∈ c.sides, s.left.length = 1 ∧ s.right.length = 1

/-- The touchscreen is not empty. -/
def HasArea (c : Config) : Prop :=
  ∀ t ∈ c.touchscreen, t.geometry.width ≠ 0 ∧ t.geometry.height ≠ 0

/-- There is something that stands for a definition. -/
def HasVocabulary (c : Config) : Prop :=
  c.buttons ≠ [] ∨ c.aliasedButtons ≠ [] ∨ c.remappedButtons ≠ [] ∨ c.analogs ≠ [] ∨
    c.dpad ≠ none ∨ c.sticks ≠ [] ∨ c.touchscreen ≠ none ∨ c.taps ≠ [] ∨ c.game ≠ none

/-- **What a configuration needs** to describe a parser. -/
structure IsValid (c : Config) : Prop where
  pairs : c.HasPairs
  letters : c.HasLetters
  area : c.HasArea
  vocabulary : c.HasVocabulary
  setLength : c.setLength ≠ 0
  sequenceLength : c.sequenceLength ≠ 0

/-- **The mistake that is reported**: each constructor asks that there is none of those before it. -/
inductive FirstMistake (c : Config) : SetupError → Prop
  | conflict {before after : List (List String)} {entry : List String} :
      c.conflicts = before ++ entry :: after → (∀ earlier ∈ before, earlier.length = 2) →
      entry.length ≠ 2 → FirstMistake c (.malformedConflict entry)
  | left {s : Sides} : c.HasPairs → c.sides = some s → s.left.length ≠ 1 →
      FirstMistake c (.malformedSidePrefix s.left)
  | right {s : Sides} : c.HasPairs → c.sides = some s → s.left.length = 1 → s.right.length ≠ 1 →
      FirstMistake c (.malformedSidePrefix s.right)
  | area {t : Touchscreen} : c.HasPairs → c.HasLetters → c.touchscreen = some t →
      t.geometry.width = 0 ∨ t.geometry.height = 0 →
      FirstMistake c (.zeroTouchscreen t.geometry.width t.geometry.height)
  | vocabulary : c.HasPairs → c.HasLetters → c.HasArea → ¬ c.HasVocabulary →
      FirstMistake c .noDefinitions
  | setLength : c.HasPairs → c.HasLetters → c.HasArea → c.HasVocabulary → c.setLength = 0 →
      FirstMistake c .zeroSetLength
  | sequenceLength : c.HasPairs → c.HasLetters → c.HasArea → c.HasVocabulary → c.setLength ≠ 0 →
      c.sequenceLength = 0 → FirstMistake c .zeroSequenceLength

theorem exists_conflict (h : ¬ c.HasPairs) : ∃ error, c.FirstMistake error := by
  obtain ⟨entry, hentry⟩ :
      ∃ entry, c.conflicts.find? (fun entry => entry.length != 2) = some entry := by
    rw [← Option.isSome_iff_exists, List.find?_isSome]
    simpa [HasPairs] using h
  obtain ⟨hlength, before, after, hconflicts, hbefore⟩ := List.find?_eq_some_iff_append.mp hentry
  exact ⟨_, .conflict hconflicts (by simpa using hbefore) (by simpa using hlength)⟩

/-- **A configuration is valid or has a first mistake.** -/
theorem isValid_or_firstMistake (c : Config) : c.IsValid ∨ ∃ error, c.FirstMistake error := by
  by_cases hpairs : c.HasPairs
  case neg => exact .inr (exists_conflict hpairs)
  by_cases hletters : c.HasLetters
  case neg =>
    rw [HasLetters] at hletters
    push Not at hletters
    obtain ⟨s, hs, hwrong⟩ := hletters
    by_cases hleft : s.left.length = 1
    · exact .inr ⟨_, .right hpairs hs hleft (hwrong hleft)⟩
    · exact .inr ⟨_, .left hpairs hs hleft⟩
  by_cases harea : c.HasArea
  case neg =>
    rw [HasArea] at harea
    push Not at harea
    obtain ⟨t, ht, hzero⟩ := harea
    exact .inr ⟨_, .area hpairs hletters ht (Classical.or_iff_not_imp_left.mpr hzero)⟩
  by_cases hvocabulary : c.HasVocabulary
  case neg => exact .inr ⟨_, .vocabulary hpairs hletters harea hvocabulary⟩
  by_cases hset : c.setLength = 0
  case pos => exact .inr ⟨_, .setLength hpairs hletters harea hvocabulary hset⟩
  by_cases hsequence : c.sequenceLength = 0
  case pos => exact .inr ⟨_, .sequenceLength hpairs hletters harea hvocabulary hset hsequence⟩
  exact .inl ⟨hpairs, hletters, harea, hvocabulary, hset, hsequence⟩

/-! ## Conflicts and letters -/

theorem mapM_conflictPair_of_pairs {entries : List (List String)}
    (h : ∀ entry ∈ entries, entry.length = 2) : ∃ pairs, entries.mapM conflictPair = .ok pairs := by
  induction entries with
  | nil => exact ⟨[], rfl⟩
  | cons entry later ih =>
    obtain ⟨hentry, hlater⟩ := List.forall_mem_cons.mp h
    obtain ⟨a, b, rfl⟩ := List.length_eq_two.mp hentry
    obtain ⟨pairs, hpairs⟩ := ih hlater
    rw [List.mapM_cons, hpairs]
    exact ⟨(a, b) :: pairs, rfl⟩

theorem conflictPair_of_malformed {entry : List String} (h : entry.length ≠ 2) :
    conflictPair entry = .error (.malformedConflict entry) := by
  rw [conflictPair]
  rintro a b rfl
  exact h rfl

/-- The first malformed entry is reported. -/
theorem mapM_conflictPair_of_malformed {before after : List (List String)} {entry : List String}
    (hbefore : ∀ earlier ∈ before, earlier.length = 2) (hentry : entry.length ≠ 2) :
    (before ++ entry :: after).mapM conflictPair = .error (.malformedConflict entry) := by
  obtain ⟨pairs, hpairs⟩ := mapM_conflictPair_of_pairs hbefore
  rw [List.mapM_append, hpairs, List.mapM_cons, conflictPair_of_malformed hentry]
  rfl

theorem singleChar_of_length_eq {text : String} (h : text.length = 1) :
    ∃ c, SidePrefixes.singleChar text = .ok c := by
  rw [← String.length_toList] at h
  obtain ⟨c, hc⟩ := List.length_eq_one_iff.mp h
  exact ⟨c, by rw [SidePrefixes.singleChar, hc]⟩

theorem singleChar_of_length_ne {text : String} (h : text.length ≠ 1) :
    SidePrefixes.singleChar text = .error (.malformedSidePrefix text) := by
  rw [SidePrefixes.singleChar]
  split
  · rename_i c hc
    rw [← String.length_toList, hc] at h
    exact absurd rfl h
  · rfl

/-! ## The layout -/

theorem exists_sides_of_letters (h : c.HasLetters) :
    ∃ sides, c.sides.mapM Sides.toPrefixes = .ok sides := by
  cases hsides : c.sides with
  | none => exact ⟨none, rfl⟩
  | some s =>
    obtain ⟨hleft, hright⟩ := h s hsides
    obtain ⟨left, hleft⟩ := singleChar_of_length_eq hleft
    obtain ⟨right, hright⟩ := singleChar_of_length_eq hright
    refine ⟨some ⟨left, right, s.allowDirected⟩, ?_⟩
    show some <$> s.toPrefixes = _
    rw [Sides.toPrefixes, SidePrefixes.ofTexts, hleft, hright]
    rfl

/-- **The steps of a configuration** whose conflicts and letters are in order. -/
theorem exists_toLayout_eq_ok (hpairs : c.HasPairs) (hletters : c.HasLetters) :
    ∃ conflicts sides, c.toLayout = .ok (Layout.ofSteps (c.steps conflicts sides)) := by
  obtain ⟨conflicts, hconflicts⟩ := mapM_conflictPair_of_pairs hpairs
  obtain ⟨sides, hsides⟩ := exists_sides_of_letters hletters
  exact ⟨conflicts, sides, by rw [toLayout, hconflicts, hsides]; rfl⟩

theorem toLayout_of_malformedConflict {before after : List (List String)} {entry : List String}
    (hconflicts : c.conflicts = before ++ entry :: after)
    (hbefore : ∀ earlier ∈ before, earlier.length = 2) (hentry : entry.length ≠ 2) :
    c.toLayout = .error (.malformedConflict entry) := by
  rw [toLayout, hconflicts, mapM_conflictPair_of_malformed hbefore hentry]
  rfl

theorem toLayout_of_sides {s : Sides} {error : SetupError} (hpairs : c.HasPairs)
    (hsides : c.sides = some s) (herror : s.toPrefixes = .error error) :
    c.toLayout = .error error := by
  obtain ⟨conflicts, hconflicts⟩ := mapM_conflictPair_of_pairs hpairs
  rw [toLayout, hconflicts, hsides]
  show (some <$> s.toPrefixes) >>= _ = _
  rw [herror]
  rfl

/-- What one entry sets, and no other entry sets otherwise, is found. -/
theorem findSome?_eq_some_of_forall {α β : Type} {f : α → Option β} {l : List α} {a : α} {b : β}
    (ha : a ∈ l) (hb : f a = some b) (hl : ∀ a' ∈ l, f a' = none ∨ f a' = some b) :
    l.findSome? f = some b := by
  cases hfound : l.findSome? f with
  | none =>
    rw [List.findSome?_eq_none_iff.mp hfound a ha] at hb
    cases hb
  | some b' =>
    obtain ⟨a', ha', hb'⟩ := List.exists_of_findSome?_eq_some hfound
    have hsame := (hl a' ha').resolve_left (by rw [hb']; exact Option.some_ne_none b')
    rw [← hb', hsame]

section Steps

variable {conflicts : List (String × String)} {sides : Option SidePrefixes}

theorem forall_mem_steps_iff {P : Layout.Step → Prop} :
    (∀ step ∈ c.steps conflicts sides, P step) ↔
      P (.lengths c.setLength c.sequenceLength) ∧ P (.hold c.hold) ∧ P (.buttons c.buttons) ∧
      P (.aliasedButtons (c.aliasedButtons.map Mapping.toPair)) ∧
      P (.remappedButtons (c.remappedButtons.map Mapping.toPair)) ∧ P (.analogs c.analogs) ∧
      (∀ p ∈ c.dpad, P (.dpad p)) ∧ (∀ s ∈ c.sticks, P (.stick s.namePrefix s.allowSpin)) ∧
      (∀ t ∈ c.touchscreen, P (.touchscreen t.geometry t.multitouch t.allowDrag)) ∧
      (∀ point ∈ c.taps, P (.tap point)) ∧ (∀ game ∈ c.game, P (.game game)) ∧
      P (.conflicts conflicts) ∧ P (.lone c.lone) ∧ ∀ p ∈ sides, P (.sides p) := by
  simp only [steps, List.forall_mem_append, List.forall_mem_cons, List.forall_mem_map,
    List.not_mem_nil, IsEmpty.forall_iff, implies_true, and_true, Option.mem_toList, Option.mem_def,
    and_assoc]

theorem error_steps_eq_none (harea : c.HasArea) :
    (Layout.ofSteps (c.steps conflicts sides)).error = none := by
  rw [Layout.error_ofSteps, List.findSome?_eq_none_iff, forall_mem_steps_iff]
  simp only [Layout.Step.mistake?, implies_true, true_and, and_true]
  exact fun t ht => if_neg (not_or.mpr (harea t ht))

/-- Nothing but the touchscreen can be a mistake. -/
theorem error_steps_eq_some {t : Touchscreen} (ht : c.touchscreen = some t)
    (hzero : t.geometry.width = 0 ∨ t.geometry.height = 0) :
    (Layout.ofSteps (c.steps conflicts sides)).error =
      some (.zeroTouchscreen t.geometry.width t.geometry.height) := by
  have hmem : .touchscreen t.geometry t.multitouch t.allowDrag ∈ c.steps conflicts sides := by
    simp [steps, ht]
  rw [Layout.error_ofSteps]
  refine findSome?_eq_some_of_forall hmem (if_pos hzero) ?_
  rw [forall_mem_steps_iff, ht]
  simp [Layout.Step.mistake?, hzero]

/-- There are definitions if something stands for one. -/
theorem definitions_steps_eq_nil_iff (c : Config) (conflicts : List (String × String))
    (sides : Option SidePrefixes) :
    (Layout.ofSteps (c.steps conflicts sides)).definitions = [] ↔ ¬ c.HasVocabulary := by
  have hstick (allowSpin : Bool) : (if allowSpin then 6 else 4) ≠ 0 := by cases allowSpin <;> decide
  have hscreen (allowDrag : Bool) : (if allowDrag then 2 else 1) ≠ 0 := by cases allowDrag <;> decide
  have hgame (game : Game) : game.points ≠ [] := by cases game <;> decide
  rw [Layout.definitions_ofSteps_eq_nil_iff, forall_mem_steps_iff]
  simp [HasVocabulary, Layout.Step.registered, hstick, hscreen, hgame,
    Option.eq_none_iff_forall_ne_some, List.eq_nil_iff_forall_not_mem]

/-- The lengths are those of the configuration. -/
theorem lengths_steps (c : Config) (conflicts : List (String × String))
    (sides : Option SidePrefixes) :
    (Layout.ofSteps (c.steps conflicts sides)).limits.setLength = c.setLength ∧
      (Layout.ofSteps (c.steps conflicts sides)).limits.sequenceLength = c.sequenceLength := by
  have hmem : .lengths c.setLength c.sequenceLength ∈ c.steps conflicts sides := by simp [steps]
  have hlengths : Layout.lastSet Layout.Step.lengths? (c.steps conflicts sides) =
      some (c.setLength, c.sequenceLength) := by
    refine findSome?_eq_some_of_forall (List.mem_reverse.mpr hmem) rfl ?_
    simp only [List.mem_reverse]
    rw [forall_mem_steps_iff]
    simp [Layout.Step.lengths?]
  rw [Layout.limits_ofSteps, Layout.limitsOf, hlengths]
  exact ⟨rfl, rfl⟩

end Steps

/-! ## The parser -/

/-- If conflicts, letters and the touchscreen are in order, the grammar decides the rest. -/
theorem exists_plain_eq (hpairs : c.HasPairs) (hletters : c.HasLetters) (harea : c.HasArea) :
    ∃ definitions limits,
      (c.toLayout >>= Layout.plain) = PlainParser.ofDefinitions definitions limits ∧
        (definitions = [] ↔ ¬ c.HasVocabulary) ∧ limits.setLength = c.setLength ∧
        limits.sequenceLength = c.sequenceLength := by
  obtain ⟨conflicts, sides, hlayout⟩ := exists_toLayout_eq_ok hpairs hletters
  refine ⟨_, _, ?_, definitions_steps_eq_nil_iff c conflicts sides, lengths_steps c conflicts sides⟩
  rw [hlayout]
  show (Layout.ofSteps (c.steps conflicts sides)).plain = _
  rw [Layout.plain, error_steps_eq_none harea]

/-- **A valid configuration has a plain parser.** -/
theorem exists_plain_of_isValid (h : c.IsValid) :
    ∃ plain, (c.toLayout >>= Layout.plain) = .ok plain := by
  obtain ⟨definitions, limits, hplain, hdefinitions, hset, hsequence⟩ :=
    exists_plain_eq h.pairs h.letters h.area
  rw [hplain]
  have hne : definitions ≠ [] := fun hnil => hdefinitions.mp hnil h.vocabulary
  refine ⟨_, PlainParser.ofDefinitions_eq_ok_iff.mpr ⟨_, Grammar.compile_eq_ok_iff.mpr
    ⟨hne, ?_, ?_, rfl⟩, rfl⟩⟩
  · rw [hset]
    exact Nat.pos_of_ne_zero h.setLength
  · rw [hsequence]
    exact Nat.pos_of_ne_zero h.sequenceLength

/-- **The first mistake is reported.** -/
theorem plain_of_firstMistake {error : SetupError} (h : c.FirstMistake error) :
    (c.toLayout >>= Layout.plain) = .error error := by
  cases h with
  | conflict hconflicts hbefore hentry =>
    rw [toLayout_of_malformedConflict hconflicts hbefore hentry]
    rfl
  | @left s hpairs hsides hleft =>
    have herror : s.toPrefixes = .error (.malformedSidePrefix s.left) := by
      rw [Sides.toPrefixes, SidePrefixes.ofTexts, singleChar_of_length_ne hleft]
      rfl
    rw [toLayout_of_sides hpairs hsides herror]
    rfl
  | @right s hpairs hsides hleft hright =>
    have herror : s.toPrefixes = .error (.malformedSidePrefix s.right) := by
      obtain ⟨left, hleft⟩ := singleChar_of_length_eq hleft
      rw [Sides.toPrefixes, SidePrefixes.ofTexts, hleft, singleChar_of_length_ne hright]
      rfl
    rw [toLayout_of_sides hpairs hsides herror]
    rfl
  | area hpairs hletters ht hzero =>
    obtain ⟨conflicts, sides, hlayout⟩ := exists_toLayout_eq_ok hpairs hletters
    rw [hlayout]
    show (Layout.ofSteps (c.steps conflicts sides)).plain = _
    rw [Layout.plain, error_steps_eq_some ht hzero]
  | vocabulary hpairs hletters harea hvocabulary =>
    obtain ⟨_, limits, hplain, hdefinitions, _⟩ := exists_plain_eq hpairs hletters harea
    obtain rfl := hdefinitions.mpr hvocabulary
    rw [hplain]
    rfl
  | setLength hpairs hletters harea hvocabulary hzero =>
    obtain ⟨definitions, limits, hplain, hdefinitions, hset, _⟩ :=
      exists_plain_eq hpairs hletters harea
    have hne : definitions ≠ [] := fun hnil => hdefinitions.mp hnil hvocabulary
    rw [hplain, PlainParser.ofDefinitions_eq_error_iff, Grammar.compile,
      if_neg (by simpa using hne), if_pos (hset.trans hzero)]
  | sequenceLength hpairs hletters harea hvocabulary hpositive hzero =>
    obtain ⟨definitions, limits, hplain, hdefinitions, hset, hsequence⟩ :=
      exists_plain_eq hpairs hletters harea
    have hne : definitions ≠ [] := fun hnil => hdefinitions.mp hnil hvocabulary
    rw [hplain, PlainParser.ofDefinitions_eq_error_iff, Grammar.compile,
      if_neg (by simpa using hne), if_neg (hset ▸ hpositive), if_pos (hsequence.trans hzero)]

/-- The layers over the plain parser add no mistakes of their own. -/
theorem build_eq_error_iff {error : SetupError} :
    c.build = .error error ↔ (c.toLayout >>= Layout.plain) = .error error := by
  rw [build]
  cases c.toLayout with
  | error e => constructor <;> (rintro ⟨⟩; rfl)
  | ok l =>
    show l.build = _ ↔ l.plain = _
    rw [Layout.build_eq]
    cases l.plain with
    | error e => simp [Except.map]
    | ok plain => simp [Except.map]

theorem plain_eq_error_iff {error : SetupError} :
    (c.toLayout >>= Layout.plain) = .error error ↔ c.FirstMistake error := by
  refine ⟨fun herror => ?_, plain_of_firstMistake⟩
  rcases isValid_or_firstMistake c with hvalid | ⟨first, hfirst⟩
  · obtain ⟨plain, hplain⟩ := exists_plain_of_isValid hvalid
    rw [hplain] at herror
    cases herror
  · rw [plain_of_firstMistake hfirst] at herror
    cases herror
    exact hfirst

theorem isValid_iff_forall_not_firstMistake : c.IsValid ↔ ∀ error, ¬ c.FirstMistake error := by
  refine ⟨fun hvalid error hfirst => ?_, fun hnone => ?_⟩
  · obtain ⟨plain, hplain⟩ := exists_plain_of_isValid hvalid
    rw [plain_of_firstMistake hfirst] at hplain
    cases hplain
  · exact (isValid_or_firstMistake c).resolve_right fun ⟨error, hfirst⟩ => hnone error hfirst

/-- What fails with the first mistake succeeds if there is none. -/
theorem exists_ok_iff_isValid {α : Type} {result : Except SetupError α}
    (herror : ∀ error, result = .error error ↔ c.FirstMistake error) :
    (∃ value, result = .ok value) ↔ c.IsValid := by
  rw [isValid_iff_forall_not_firstMistake]
  simp only [← herror]
  cases result with
  | error e => simp
  | ok value => simp

/-- **The verdict on a configuration.**  It is built exactly if it is valid.  If it is not, the error is
its first mistake: of the conflicts the first one that is no pair, then the letter of the left side
and that of the right side, the touchscreen, the vocabulary, and the two lengths.  The plain parser
alone, without its layers, is built or fails in the same way. -/
theorem build_verdict (c : Config) :
    ((∃ built, c.build = .ok built) ↔ c.IsValid) ∧
    (∀ error, c.build = .error error ↔ c.FirstMistake error) ∧
    ((∃ plain, (c.toLayout >>= Layout.plain) = .ok plain) ↔ c.IsValid) ∧
    ∀ error, (c.toLayout >>= Layout.plain) = .error error ↔ c.FirstMistake error := by
  have hbuild (error : SetupError) : c.build = .error error ↔ c.FirstMistake error := by
    rw [build_eq_error_iff, plain_eq_error_iff]
  exact ⟨exists_ok_iff_isValid hbuild, hbuild,
    exists_ok_iff_isValid fun _ => plain_eq_error_iff, fun _ => plain_eq_error_iff⟩

/-- All but the conflicts and the left letter is wrong here, and the right letter is reported. -/
example :
    let c : Config :=
      { setLength := 0, sequenceLength := 0, conflicts := [["a", "b"]], sides := some { right := "" },
        touchscreen := some { geometry := { width := 0, height := 160 } } }
    (c.toLayout >>= Layout.plain).map (fun _ => ()) = .error (.malformedSidePrefix "") := by
  rfl

end ChatPad.Config
