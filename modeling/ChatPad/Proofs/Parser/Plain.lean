import ChatPad.Parser.Plain
import ChatPad.Proofs.Assembly.Played
import ChatPad.Proofs.Message.Unambiguous

/-!
# What the plain parser reads

A message that is read has a reading, all tokens of which are read, and what it plays is the answer
(`PlainParser.exists_reads_of_read`).  The converse needs a vocabulary whose tokens can be told apart:
then the parser can find no other reading (`PlainParser.read_eq_assembled`,
`PlainParser.read_of_reads`).  Of a single message, what is found can be computed
(`PlainParser.read_of_captures`).
-/

namespace ChatPad.PlainParser

variable {definitions : List Definition} {limits : Limits} {p : PlainParser} {text : String}

theorem ofDefinitions_eq_ok_iff : ofDefinitions definitions limits = .ok p ↔
    ∃ g, Grammar.compile definitions limits = .ok g ∧ p = ⟨definitions, g⟩ := by
  rw [ofDefinitions]
  cases Grammar.compile definitions limits with
  | error e => exact ⟨nofun, nofun⟩
  | ok g =>
    constructor
    · rintro ⟨⟩
      exact ⟨g, rfl, rfl⟩
    · rintro ⟨g, ⟨⟩, rfl⟩
      rfl

theorem ofDefinitions_eq_error_iff {error : SetupError} :
    ofDefinitions definitions limits = .error error ↔
      Grammar.compile definitions limits = .error error := by
  rw [ofDefinitions]
  cases Grammar.compile definitions limits with
  | error e => constructor <;> (rintro ⟨⟩; rfl)
  | ok g => exact ⟨nofun, nofun⟩

theorem value_parse_eq_some_iff {sequence : InputSequence} :
    (p.parse text).value = some sequence ↔ p.read text = .ok sequence := by
  rw [parse]
  cases p.read text <;> simp

/-- A message is read if it matches and its captures can be assembled. -/
theorem read_eq_ok_iff {g : Grammar} (hg : Grammar.compile definitions limits = .ok g)
    {sequence : InputSequence} : read ⟨definitions, g⟩ text = .ok sequence ↔
      ∃ captures, g.captures? text.toList = some captures ∧
        assemble definitions limits captures = .ok sequence := by
  have hlimits : g.limits = limits := Grammar.limits_exhaustive hg
  rw [read]
  cases g.captures? text.toList with
  | none => exact ⟨nofun, nofun⟩
  | some captures => simp [hlimits]

/-- Assembly gives what a reading plays, if its tokens are read and the limit is kept. -/
theorem assemble_captures_eq_ok_iff {sets : Reading}
    (hsets : ∀ set ∈ sets, set.Valid definitions limits) {sequence : InputSequence} :
    assemble definitions limits (Reading.captures 0 sets) = .ok sequence ↔
      (∀ set ∈ sets, ∀ t ∈ set.tokens, (t.input? definitions).isSome = true) ∧
        (Reading.played definitions sets).length ≤ limits.sequenceLength ∧
        sequence = ⟨Reading.played definitions sets⟩ := by
  rw [assemble_captures hsets, map_eq_ok_iff]
  simp only [Reading.assembled_eq_ok_iff sets hsets (Nat.zero_le _), Nat.zero_add]
  constructor
  · rintro ⟨_, ⟨hread, hlength, rfl⟩, rfl⟩
    exact ⟨hread, hlength, rfl⟩
  · rintro ⟨hread, hlength, rfl⟩
    exact ⟨_, ⟨hread, hlength, rfl⟩, rfl⟩

/-- **A message that is read has a reading**, and what it plays is the answer. -/
theorem exists_reads_of_read (hp : ofDefinitions definitions limits = .ok p)
    {sequence : InputSequence} (h : p.read text = .ok sequence) :
    ∃ sets, Reads definitions limits text.toList sets ∧
      (∀ set ∈ sets, ∀ t ∈ set.tokens, (t.input? definitions).isSome = true) ∧
      (Reading.played definitions sets).length ≤ limits.sequenceLength ∧
      sequence = ⟨Reading.played definitions sets⟩ := by
  obtain ⟨g, hg, rfl⟩ := ofDefinitions_eq_ok_iff.mp hp
  obtain ⟨captures, hcaptures, hassemble⟩ := (read_eq_ok_iff hg).mp h
  obtain ⟨sets, hreads, rfl⟩ := Grammar.exists_reads_of_captures? hg hcaptures
  exact ⟨sets, hreads, (assemble_captures_eq_ok_iff hreads.valid).mp hassemble⟩

/-- A text without a reading does not match. -/
theorem read_eq_noMatch (hp : ofDefinitions definitions limits = .ok p)
    (hnone : ∀ sets, ¬ Reads definitions limits text.toList sets) : p.read text = .error .noMatch := by
  obtain ⟨g, hg, rfl⟩ := ofDefinitions_eq_ok_iff.mp hp
  rw [read]
  cases hcaptures : g.captures? text.toList with
  | none => rfl
  | some captures =>
    obtain ⟨sets, hreads, _⟩ := Grammar.exists_reads_of_captures? hg hcaptures
    exact absurd hreads (hnone sets)

/-- What is read is the assembled reading, if its captures are those that are found. -/
theorem read_of_captures (hp : ofDefinitions p.definitions p.grammar.limits = .ok p) (sets : Reading)
    (hcaptures : p.grammar.captures? text.toList = some (Reading.captures 0 sets)) : p.read text =
      (Reading.assembled p.definitions p.grammar.limits.sequenceLength 0 0 sets).map
        InputSequence.mk := by
  obtain ⟨g, hg, hcompiled⟩ := ofDefinitions_eq_ok_iff.mp hp
  obtain rfl : p.grammar = g := congrArg grammar hcompiled
  obtain ⟨sets', hreads, hsets⟩ := Grammar.exists_reads_of_captures? hg hcaptures
  obtain rfl := Reading.captures_injective 0 hsets
  rw [read, hcaptures]
  exact assemble_captures hreads.valid

/-- The answer is the assembled reading, if its captures are those that are found. -/
theorem value_parse_of_captures (hp : ofDefinitions p.definitions p.grammar.limits = .ok p)
    (sets : Reading) (hcaptures : p.grammar.captures? text.toList = some (Reading.captures 0 sets))
    {made : List InputSet} (hassembled :
      Reading.assembled p.definitions p.grammar.limits.sequenceLength 0 0 sets = .ok made) :
    (p.parse text).value = some ⟨made⟩ := by
  rw [value_parse_eq_some_iff, read_of_captures hp sets hcaptures, hassembled]
  rfl

/-- A reading is assembled, if its tokens can be told apart. -/
theorem read_eq_assembled (hvocabulary : Unambiguous definitions)
    (hp : ofDefinitions definitions limits = .ok p) {sets : Reading}
    (hreads : Reads definitions limits text.toList sets) : p.read text =
      (Reading.assembled definitions limits.sequenceLength 0 0 sets).map InputSequence.mk := by
  obtain ⟨g, hg, rfl⟩ := ofDefinitions_eq_ok_iff.mp hp
  obtain rfl : g.limits = limits := Grammar.limits_exhaustive hg
  exact read_of_captures hp sets (hvocabulary.captures?_eq hg hreads)

/-- **What a reading plays is the answer**, if its tokens can be told apart and are read, and the
limit is kept. -/
theorem read_of_reads (hvocabulary : Unambiguous definitions)
    (hp : ofDefinitions definitions limits = .ok p) {sets : Reading}
    (hreads : Reads definitions limits text.toList sets)
    (hread : ∀ set ∈ sets, ∀ t ∈ set.tokens, (t.input? definitions).isSome = true)
    (hlength : (Reading.played definitions sets).length ≤ limits.sequenceLength) :
    p.read text = .ok ⟨Reading.played definitions sets⟩ := by
  rw [read_eq_assembled hvocabulary hp hreads, ← assemble_captures hreads.valid]
  exact (assemble_captures_eq_ok_iff hreads.valid).mpr ⟨hread, hlength, rfl⟩

end ChatPad.PlainParser
