import ChatPad.Proofs.Layout.Layers
import Mathlib.Data.List.Basic

/-!
# What a built parser logs

Two layers of a parser write to the log, the plain parser if it cannot read a text and the layer of rules
if what was read breaks one, and the layer of sides asks them about one remainder after the other.  A
remainder that is accepted ends this, and nobody writes anything about it.

* `Rules.lines_checked`: below the layer of sides, a text that is turned down leaves one line, which says
  why (`Rules.objection?`), and a text that is accepted leaves none;
* `Logged.log_firstRecognized`: a search along the remainders leaves the logs of those that it tries, and
  these are the same whatever else is logged;
* `Layout.build_log`: a built parser leaves one line for each remainder that it tries and turns down.
-/

namespace ChatPad

/-- What follows adds its log to that of what came before. -/
theorem Logged.log_bind {ε α β : Type} (a : Logged ε α) (f : α → Logged ε β) :
    (a >>= f).log = a.log ++ (f a.value).log :=
  rfl

/-! ## One text -/

namespace Rules

/-- Why a text is turned down, if it is: the plain parser cannot read it, or it is read and breaks a
rule. -/
def objection? (rules : Rules) (p : PlainParser) (text : String) : Option String :=
  match p.read text with
  | .error reason => some reason.message
  | .ok sequence => (rules.violation? sequence).map Violation.message

variable (rules : Rules) (p : PlainParser) (text : String)

/-- A text is accepted exactly if nothing speaks against it. -/
theorem isSome_value_checked :
    (rules.checked p.parse text).value.isSome = (rules.objection? p text).isNone := by
  rw [value_checked, PlainParser.parse, objection?]
  cases p.read text with
  | error reason => rfl
  | ok sequence => cases hviolation : rules.violation? sequence <;> simp [hviolation]

/-- The line about a text that is turned down. -/
def refusalLine (text why : String) : String := "DEBUG rejected " ++ Text.quoted text ++ ": " ++ why

/-- **A text that is turned down leaves one line**, and a text that is accepted none. -/
theorem lines_checked : (rules.checked p.parse text).log.map Event.line =
    ((rules.objection? p text).map (refusalLine text)).toList := by
  rw [checked, Logged.log_bind, PlainParser.parse, objection?]
  cases p.read text with
  | error reason => rfl
  | ok sequence => cases hviolation : rules.violation? sequence <;> simp [hviolation] <;> rfl

end Rules

/-! ## A search along the remainders -/

/-- The remainders that a search along a list looks at: it stops behind the first that is accepted. -/
def Remainder.upTo (accepts : String → Bool) : List Remainder → List Remainder
  | [] => []
  | r :: later => r :: if accepts r.text then [] else upTo accepts later

namespace Remainder

variable {accepts : String → Bool}

theorem upTo_prefix (rs : List Remainder) : upTo accepts rs <+: rs := by
  induction rs with
  | nil => exact List.prefix_rfl
  | cons r later ih =>
    rw [upTo, List.prefix_cons_inj]
    split
    · exact List.nil_prefix
    · exact ih

/-- Only the last remainder that is looked at can be accepted. -/
theorem upTo_of_accepted (accepts : String → Bool) {rs : List Remainder}
    (h : ∃ r ∈ rs, accepts r.text = true) :
    ∃ before last, upTo accepts rs = before ++ [last] ∧ accepts last.text = true ∧
      ∀ r ∈ before, accepts r.text = false := by
  induction rs with
  | nil => simp at h
  | cons r later ih =>
    rw [upTo]
    cases hr : accepts r.text with
    | true => exact ⟨[], r, rfl, hr, by simp⟩
    | false =>
      obtain ⟨before, last, heq, hlast, hbefore⟩ := ih (by simpa [hr] using h)
      exact ⟨r :: before, last, by simp [heq], hlast, List.forall_mem_cons.mpr ⟨hr, hbefore⟩⟩

end Remainder

namespace Logged

open SidePrefixes

variable {ε α : Type}

/-- **A search leaves the logs of the remainders that it looks at**, in order. -/
theorem log_firstRecognized (recognize : String → Logged ε (Option α)) (rs : List Remainder) :
    (firstRecognized recognize rs).log =
      (Remainder.upTo (fun text => (recognize text).value.isSome) rs).flatMap
        fun r => (recognize r.text).log := by
  induction rs with
  | nil => rfl
  | cons r later ih =>
    rw [firstRecognized, log_bind, Remainder.upTo, List.flatMap_cons]
    congr 1
    cases hr : (recognize r.text).value with
    | none => exact ih
    | some value => rfl

end Logged

namespace Layout

/-! ## Both layers -/

/-- Answers a text as the layer of rules does, and notes that it was asked. -/
def asked (l : Layout) (p : PlainParser) (rest : String) : Logged String (Option InputSequence) :=
  ⟨(l.rules.checked p.parse rest).value, [rest]⟩

/-- What is tried of a text: the layers run as they do, and each remainder is noted when it is asked
about. -/
def tried (l : Layout) (p : PlainParser) (text : String) : List String :=
  match l.sides with
  | none => (l.asked p text).log
  | some sides => (sides.disambiguate (l.asked p) text).log

variable (l : Layout) (p : PlainParser) (text : String)

/-- What is tried of a text are its remainders, up to the first that is accepted. -/
theorem tried_eq : l.tried p text = (Remainder.upTo
    (fun rest => (l.rules.checked p.parse rest).value.isSome) (l.remainders text)).map
      Remainder.text := by
  rw [tried, remainders]
  cases l.sides with
  | none => simp [Remainder.upTo, asked]
  | some sides =>
    show (sides.disambiguate (l.asked p) text).log = _
    rw [SidePrefixes.disambiguate_eq_firstRecognized, Logged.log_firstRecognized]
    exact List.map_eq_flatMap.symm

/-- **The layers log what the layer of rules logs about each text that is tried.** -/
theorem log_layers : (l.layers p.parse text).log =
    (l.tried p text).flatMap fun rest => (l.rules.checked p.parse rest).log := by
  rw [tried_eq, List.flatMap_map, layers, remainders]
  cases l.sides with
  | none => simp [Remainder.upTo]
  | some sides =>
    have hmarked : (sides.marked (l.rules.checked p.parse) text).log =
        (sides.disambiguate (l.rules.checked p.parse) text).log := by
      rw [SidePrefixes.marked, Logged.log_bind]
      cases (sides.disambiguate (l.rules.checked p.parse) text).value <;> exact List.append_nil _
    show (sides.marked (l.rules.checked p.parse) text).log = _
    rw [hmarked, SidePrefixes.disambiguate_eq_firstRecognized, Logged.log_firstRecognized]

/-- The lines of a parse: one for each remainder that is tried and turned down. -/
theorem lines_layers : (l.layers p.parse text).log.map Event.line =
    (l.tried p text).filterMap fun rest =>
      (l.rules.objection? p rest).map (Rules.refusalLine rest) := by
  rw [log_layers, List.map_flatMap]
  simp only [Rules.lines_checked]
  exact (List.filterMap_eq_flatMap_toList _ _).symm

/-! ## What is tried, and what becomes of it -/

variable {l p text}

/-- A text is answered exactly if nothing speaks against one of its remainders. -/
theorem isSome_value_layers_iff : (l.layers p.parse text).value.isSome = true ↔
    ∃ r ∈ l.remainders text, (l.rules.objection? p r.text).isNone = true := by
  rw [value_layers, List.findSome?_isSome_iff]
  simp only [Option.isSome_map, Rules.isSome_value_checked]

/-- If a text is answered, the last remainder that is tried is accepted, and all before it are turned
down. -/
theorem exists_tried_of_answered (h : (l.layers p.parse text).value.isSome = true) :
    ∃ refused last, l.tried p text = refused ++ [last] ∧ l.rules.objection? p last = none ∧
      ∀ rest ∈ refused, (l.rules.objection? p rest).isSome = true := by
  rw [isSome_value_layers_iff] at h
  simp only [tried_eq, Rules.isSome_value_checked]
  obtain ⟨before, last, heq, hlast, hbefore⟩ :=
    Remainder.upTo_of_accepted (fun rest => (l.rules.objection? p rest).isNone) h
  refine ⟨before.map Remainder.text, last.text, by simp [heq], by simpa using hlast, ?_⟩
  simpa [Option.isSome_iff_ne_none] using hbefore

/-- If a text is not answered, everything that is tried is turned down. -/
theorem refused_of_not_answered (h : (l.layers p.parse text).value = none) :
    ∀ rest ∈ l.tried p text, (l.rules.objection? p rest).isSome = true := by
  intro rest hrest
  rw [tried_eq, List.mem_map] at hrest
  obtain ⟨r, hr, rfl⟩ := hrest
  have hmem : r ∈ l.remainders text := (Remainder.upTo_prefix _).subset hr
  by_contra hnone
  have hanswered := isSome_value_layers_iff.mpr ⟨r, hmem, by simpa using hnone⟩
  rw [h] at hanswered
  cases hanswered

/-- **There are as many lines as remainders that are tried**, but for the one that is accepted. -/
theorem length_log_layers : (l.layers p.parse text).log.length +
    (if (l.layers p.parse text).value.isSome then 1 else 0) = (l.tried p text).length := by
  have hlines := congrArg List.length (l.lines_layers p text)
  rw [List.length_map] at hlines
  rw [hlines]
  have hrefused (rests : List String)
      (h : ∀ rest ∈ rests, (l.rules.objection? p rest).isSome = true) :
      (rests.filterMap fun rest => (l.rules.objection? p rest).map (Rules.refusalLine rest)).length =
        rests.length := by
    rw [List.length_filterMap_eq_countP, List.countP_eq_length]
    intro rest hrest
    simpa using h rest hrest
  cases hvalue : (l.layers p.parse text).value with
  | none => simp [hrefused _ (refused_of_not_answered hvalue)]
  | some answer =>
    obtain ⟨refused, last, htried, hlast, hbefore⟩ :=
      exists_tried_of_answered (Option.isSome_of_eq_some hvalue)
    rw [htried, List.filterMap_append, List.length_append, hrefused refused hbefore]
    simp [hlast]

/-- **What a built parser logs about a text.**  What it tries are remainders of the text, in their order.
The log has one line for each that is turned down, in the order in which they are tried, with the
remainder and what speaks against it, and no line for one that is accepted.  If the text is answered, that
is the last one that is tried and no other; if it is not, all are turned down.  So there are as many lines
as remainders that are tried, less one if the text is answered; and without sides, there is one line
exactly if the text is not answered, and else none. -/
theorem build_log {steps : List Step} {plain : PlainParser} {parser : Parser} {log : List Event}
    (hplain : (ofSteps steps).plain = .ok plain) (hbuild : (ofSteps steps).build = .ok ⟨parser, log⟩)
    (text : String) :
    let l := ofSteps steps
    let tried := l.tried plain text
    let objection? := l.rules.objection? plain
    tried <+: (l.remainders text).map Remainder.text ∧
    (parser text).log.map Event.line = (tried.filterMap fun rest =>
      (objection? rest).map fun why => "DEBUG rejected " ++ Text.quoted rest ++ ": " ++ why) ∧
    ((parser text).value.isSome = true → ∃ refused last, tried = refused ++ [last] ∧
      objection? last = none ∧ ∀ rest ∈ refused, (objection? rest).isSome = true) ∧
    ((parser text).value = none → ∀ rest ∈ tried, (objection? rest).isSome = true) ∧
    (parser text).log.length + (if (parser text).value.isSome then 1 else 0) = tried.length ∧
    (l.sides = none → (parser text).log.length = if (parser text).value = none then 1 else 0) := by
  intro l tried objection?
  obtain rfl := eq_layers_of_build hplain hbuild
  have hlength : _ = tried.length := length_log_layers
  refine ⟨?_, l.lines_layers plain text, exists_tried_of_answered, refused_of_not_answered, hlength, ?_⟩
  · simp only [tried, tried_eq]
    exact (Remainder.upTo_prefix _).map _
  · intro hsides
    have hone : tried.length = 1 := by simp [tried, Layout.tried, hsides, asked]
    rw [hone] at hlength
    cases hvalue : (l.layers plain.parse text).value with
    | none => simpa [hvalue] using hlength
    | some answer => simpa [hvalue] using hlength

/-- Of `lla+b` the plain parser cannot read the whole, what is left after one letter breaks a rule, and
what is left after two is the answer: two lines for three remainders. -/
theorem build_log_two_refused :
    let l := ofSteps [.buttons ["la", "a", "b"], .conflicts [("la", "b")], .sides {}]
    ∃ plain parser log, l.plain = .ok plain ∧ l.build = .ok ⟨parser, log⟩ ∧
      l.tried plain "lla+b" = ["lla+b", "la+b", "a+b"] ∧
      (parser "lla+b").value.isSome = true ∧
      (parser "lla+b").log.map Event.line =
        ["DEBUG rejected \"lla+b\": text does not match the input grammar",
          "DEBUG rejected \"la+b\": \"la\" conflicts with \"b\""] := by
  intro l
  obtain ⟨plain, hjoined, -, hread, hrest, hnone⟩ := exists_plain_joined
  have hplain : l.plain = .ok plain := hjoined
  obtain ⟨parser, log, hbuild, _⟩ := (build_layers _).2 plain hplain
  have hwhole : l.rules.objection? plain "lla+b" = some "text does not match the input grammar" := by
    rw [Rules.objection?, hnone]
    rfl
  have hbroken : l.rules.objection? plain "la+b" = some "\"la\" conflicts with \"b\"" := by
    rw [Rules.objection?, PlainParser.value_parse_eq_some_iff.mp hread]
    decide +kernel
  have hkept : l.rules.objection? plain "a+b" = none := by
    rw [Rules.objection?, PlainParser.value_parse_eq_some_iff.mp hrest]
    decide +kernel
  have hremainders : l.remainders "lla+b" = [⟨"lla+b", none⟩, ⟨"la+b", some .left⟩, ⟨"a+b", some .left⟩] :=
    by decide +kernel
  have htried : l.tried plain "lla+b" = ["lla+b", "la+b", "a+b"] := by
    rw [tried_eq, hremainders]
    simp [Remainder.upTo, Rules.isSome_value_checked, hwhole, hbroken, hkept]
  obtain ⟨_, hlines, _, hrefused, _⟩ := build_log hplain hbuild "lla+b"
  refine ⟨plain, parser, log, hplain, hbuild, htried, ?_, hlines.trans ?_⟩
  · cases hvalue : (parser "lla+b").value with
    | some answer => rfl
    | none =>
      have hmem : "a+b" ∈ l.tried plain "lla+b" := by
        rw [htried]
        decide
      have hlast := hrefused hvalue "a+b" hmem
      rw [hkept] at hlast
      cases hlast
  · rw [htried, List.filterMap_cons, List.filterMap_cons, List.filterMap_cons, List.filterMap_nil, hwhole,
      hbroken, hkept]
    decide +kernel

end Layout

end ChatPad
