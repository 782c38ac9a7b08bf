import ChatPad.Proofs.Assembly.Played
import ChatPad.Proofs.Message.Language
import ChatPad.Proofs.Sequence.Runs
import Mathlib.Algebra.BigOperators.Group.List.Basic

/-!
# Runs as they are typed

A set that came from a message can be typed again: `IsTyped` says that its chat spells it.  Runs of
such sets are a message, whose digits are the lengths of the runs:

* `isTyped_of_read`: a set of a message can be typed again if its tokens are read with their texts;
* `exists_reads_of_runs`: the texts of the runs in a row have a reading that plays the first set of
  each run as often as the run is long;
* `exists_reads_of_chatOf`: so the chat of a sequence is a message.
-/

namespace ChatPad

/-- The set with another repeat digit, or with none. -/
def ReadSet.timed (set : ReadSet) (times : Option Nat) : ReadSet := { set with times }

theorem ReadSet.text_timed (set : ReadSet) (times : Option Nat) :
    (set.timed times).text = (set.timed none).text ++ timesText times := by
  rw [ReadSet.text_eq, ReadSet.text_eq]
  simp [timed, tokens, timesText]

/-- A set as it is typed: its text without the repeat digit, and that digit. -/
def ReadSet.typed (set : ReadSet) : List Char × Option Nat := ((set.timed none).text, set.times)

def Run.typed (run : Run) : List Char × Option Nat := (run.first.chat.toList, run.times?)

/-- The chat of a set spells a set of a message, all tokens of which are read. -/
structure IsTyped (definitions : List Definition) (limits : Limits) (set : InputSet)
    (spelled : ReadSet) : Prop where
  valid : spelled.Valid definitions limits
  read : ∀ t ∈ spelled.tokens, (t.input? definitions).isSome = true
  played : spelled.played definitions = set
  chat : set.chat.toList = (spelled.timed none).text

variable {definitions : List Definition} {limits : Limits}

/-! ## One set -/

/-- The inputs of a set as it is read: controls, and then a hold marker if it is held. -/
def heldSet (controls : List Input) (held : Bool) : InputSet :=
  ⟨controls ++ if held then [Input.hold] else []⟩

/-- A set is typed as the texts of its controls. -/
theorem toList_chat_heldSet {controls : List Input}
    (h : ∀ i ∈ controls, i.isHold = false ∧ i.isSide = false) (held : Bool) :
    (heldSet controls held).chat.toList =
      List.intercalate ['+'] (controls.map fun i => i.typed.toList) ++ holdText held := by
  have htyped : (heldSet controls held).inputs.filter (fun i => !i.isHold && !i.isSide) = controls := by
    have hcontrols : controls.filter (fun i => !i.isHold && !i.isSide) = controls :=
      List.filter_eq_self.mpr fun i hi => by simp [h i hi]
    rw [heldSet, List.filter_append, hcontrols]
    cases held <;> simp [Input.hold, Input.isHold]
  have hheld : (heldSet controls held).isHeld = held := by
    have hcontrols : controls.any Input.isHold = false :=
      List.any_eq_false.mpr fun i hi => by simp [h i hi]
    rw [InputSet.isHeld, heldSet, List.any_append, hcontrols]
    cases held <;> rfl
  rw [InputSet.chat, htyped, hheld, String.toList_append, String.toList_intercalate, List.map_map]
  cases held <;> rfl

/-- The token is read as a control with its text. -/
def ReadToken.IsTyped (definitions : List Definition) (t : ReadToken) : Prop :=
  ∃ i, t.input? definitions = some i ∧ i.typed = String.ofList t.word ∧
    i.isHold = false ∧ i.isSide = false

theorem controls_of_isTyped {tokens : List ReadToken} (h : ∀ t ∈ tokens, t.IsTyped definitions) :
    ((tokens.filterMap (ReadToken.input? definitions)).map fun i => i.typed.toList) =
        tokens.map ReadToken.word ∧
      ∀ i ∈ tokens.filterMap (ReadToken.input? definitions), i.isHold = false ∧ i.isSide = false := by
  induction tokens with
  | nil => exact ⟨rfl, nofun⟩
  | cons t more ih =>
    obtain ⟨⟨i, hi, htyped, hcontrol⟩, hmore⟩ := List.forall_mem_cons.mp h
    obtain ⟨htexts, hcontrols⟩ := ih hmore
    rw [List.filterMap_cons_some hi, List.map_cons, List.map_cons, htexts, htyped,
      String.toList_ofList]
    exact ⟨rfl, List.forall_mem_cons.mpr ⟨hcontrol, hcontrols⟩⟩

/-- **A set of a message can be typed again**, if its tokens are read as controls with their texts. -/
theorem isTyped_of_read {set : ReadSet} (hset : set.Valid definitions limits)
    (hread : ∀ t ∈ set.tokens, t.IsTyped definitions) :
    IsTyped definitions limits (set.played definitions) set where
  valid := hset
  read := by
    intro t ht
    obtain ⟨i, hi, _⟩ := hread t ht
    rw [hi]
    rfl
  played := rfl
  chat := by
    obtain ⟨htexts, hcontrols⟩ := controls_of_isTyped hread
    have hchat := toList_chat_heldSet hcontrols set.held
    rw [htexts] at hchat
    rw [ReadSet.text_eq]
    exact hchat.trans (List.append_nil _).symm

/-! ## One run -/

theorem toList_decimal {n : Nat} (h : n < 10) : (Text.decimal n).toList = [Nat.digitChar n] := by
  rw [Text.decimal, String.toList_ofList, Text.decimalDigits, Nat.toDigits_of_lt_base h]

theorem Run.toList_chat {run : Run} (h : run.sets.length ≤ InputSequence.longestRun) :
    run.chat.toList = run.first.chat.toList ++ timesText run.times? := by
  have hten : run.sets.length < 10 := Nat.lt_succ_of_le h
  rw [chat, String.toList_append, times?]
  split
  · rfl
  · exact congrArg _ (toList_decimal hten)

theorem Run.repetitions_times? (run : Run) : run.times?.getD 1 = run.sets.length := by
  rw [times?, sets, List.length_cons]
  split
  · rename_i hcopies
    rw [hcopies]
    rfl
  · rfl

/-- The digit of a run is one that the limits allow. -/
theorem Run.allowsTimes {run : Run} (hshort : run.sets.length ≤ InputSequence.longestRun)
    (hlength : run.sets.length ≤ limits.sequenceLength) :
    ∀ count ∈ run.times?, limits.AllowsTimes count := by
  intro count hcount
  rw [times?] at hcount
  split at hcount
  · cases hcount
  · rename_i hcopies
    obtain rfl := Option.some.inj hcount
    have hmany : 1 < run.sets.length := by
      rw [sets, List.length_cons]
      omega
    exact ⟨by omega, by omega, Nat.le_min.mpr ⟨hlength, hshort⟩⟩

/-- A run whose first set is typed is a set of a message with a repeat digit. -/
theorem IsTyped.run {run : Run} {spelled : ReadSet}
    (h : IsTyped definitions limits run.first spelled)
    (hshort : run.sets.length ≤ InputSequence.longestRun)
    (hlength : run.sets.length ≤ limits.sequenceLength) :
    (spelled.timed run.times?).Valid definitions limits ∧
      (spelled.timed run.times?).text = run.chat.toList ∧
      (spelled.timed run.times?).typed = run.typed ∧
      (spelled.timed run.times?).repetitions = run.sets.length := by
  refine ⟨⟨h.valid.first, h.valid.rest.more, h.valid.rest.length, h.valid.rest.held,
    Run.allowsTimes hshort hlength⟩, ?_, ?_, Run.repetitions_times? run⟩
  · rw [ReadSet.text_timed, Run.toList_chat hshort, h.chat]
  · rw [Run.typed, h.chat]
    rfl

/-! ## Runs in a row -/

theorem length_le_length_flatMap_sets (runs : List Run) :
    runs.length ≤ (runs.flatMap Run.sets).length := by
  have hsum := List.length_le_sum_of_one_le (runs.map fun run => run.sets.length) (by simp [Run.sets])
  rw [List.length_map] at hsum
  rw [List.length_flatMap]
  exact hsum

theorem length_sets_le_of_mem {runs : List Run} {run : Run} (h : run ∈ runs) :
    run.sets.length ≤ (runs.flatMap Run.sets).length := by
  have hsublist := List.sublist_flatten_of_mem (List.mem_map_of_mem (f := Run.sets) h)
  rw [← List.flatMap_def] at hsublist
  exact hsublist.length_le

/-- **Runs in a row are a message**, if their first sets are typed: each run is a set that is typed as
the run is, and is played as often as the run is long. -/
theorem exists_reads_of_runs {runs : List Run} (hne : runs ≠ [])
    (htyped : ∀ run ∈ runs, ∃ spelled, IsTyped definitions limits run.first spelled)
    (hshort : ∀ run ∈ runs, run.sets.length ≤ InputSequence.longestRun)
    (hlength : (runs.flatMap Run.sets).length ≤ limits.sequenceLength) :
    ∃ sets, Reads definitions limits (String.join (runs.map Run.chat)).toList sets ∧
      (∀ set ∈ sets, ∀ t ∈ set.tokens, (t.input? definitions).isSome = true) ∧
      Reading.played definitions sets = replayed runs ∧
      sets.map ReadSet.typed = runs.map Run.typed := by
  let typed (run : Run) : List Char × (List Char × Option Nat) × List InputSet :=
    (run.chat.toList, run.typed, List.replicate run.sets.length run.first)
  let spelled (set : ReadSet) : List Char × (List Char × Option Nat) × List InputSet :=
    (set.text, set.typed, List.replicate set.repetitions (set.played definitions))
  obtain ⟨sets, hsets, hmap⟩ : ∃ sets : Reading, (∀ set ∈ sets, set.Valid definitions limits ∧
      ∀ t ∈ set.tokens, (t.input? definitions).isSome = true) ∧
      sets.map spelled = runs.map typed := by
    refine exists_map_eq_iff.mpr ?_
    rw [List.forall_mem_map]
    intro run hrun
    obtain ⟨set, hset⟩ := htyped run hrun
    obtain ⟨hvalid, htext, htyped, hrepetitions⟩ :=
      hset.run (hshort run hrun) ((length_sets_le_of_mem hrun).trans hlength)
    refine ⟨set.timed run.times?, ⟨hvalid, hset.read⟩, ?_⟩
    show (_, _, List.replicate _ (set.played definitions)) = _
    rw [htext, htyped, hrepetitions, hset.played]
  have hcount : sets.length = runs.length := by simpa using congrArg List.length hmap
  have htext : Reading.text sets = (String.join (runs.map Run.chat)).toList := by
    have htexts := congrArg (List.flatMap Prod.fst) hmap
    rw [List.flatMap_map, List.flatMap_map] at htexts
    rw [String.toList_join, List.flatMap_map]
    exact htexts
  have hplayed : Reading.played definitions sets = replayed runs := by
    have hsets := congrArg (List.flatMap fun typed => typed.2.2) hmap
    rw [List.flatMap_map, List.flatMap_map] at hsets
    exact hsets
  have htyped : sets.map ReadSet.typed = runs.map Run.typed := by
    have hparts := congrArg (List.map fun typed => typed.2.1) hmap
    rw [List.map_map, List.map_map] at hparts
    exact hparts
  refine ⟨sets, ⟨?_, ?_, fun set hset => (hsets set hset).1, htext.symm⟩,
    fun set hset => (hsets set hset).2, hplayed, htyped⟩
  · rintro rfl
    exact hne (List.length_eq_zero_iff.mp hcount.symm)
  · rw [hcount]
    exact (length_le_length_flatMap_sets runs).trans hlength

/-- **Chat is a message**, if the sets of the sequence are typed: it is read run by run. -/
theorem exists_reads_of_chatOf {sets : List InputSet} (hne : sets ≠ [])
    (hlength : sets.length ≤ limits.sequenceLength)
    (htyped : ∀ set ∈ sets, ∃ spelled, IsTyped definitions limits set spelled) (collapse : Bool) :
    ∃ reading, Reads definitions limits (InputSequence.chatOf collapse sets).toList reading ∧
      (∀ set ∈ reading, ∀ t ∈ set.tokens, (t.input? definitions).isSome = true) ∧
      Reading.played definitions reading = replayed (InputSequence.runsOf collapse sets) ∧
      (Reading.played definitions reading).length = sets.length ∧
      reading.map ReadSet.typed = (InputSequence.runsOf collapse sets).map Run.typed := by
  have hruns := InputSequence.flatMap_sets_runsOf collapse sets
  have hfirst : ∀ run ∈ InputSequence.runsOf collapse sets, run.first ∈ sets := by
    intro run hrun
    rw [← hruns]
    exact List.mem_flatMap.mpr ⟨run, hrun, List.mem_cons_self⟩
  have hempty : InputSequence.runsOf collapse sets ≠ [] := by
    intro hempty
    rw [hempty] at hruns
    exact hne hruns.symm
  have hcount : ((InputSequence.runsOf collapse sets).flatMap Run.sets).length ≤
      limits.sequenceLength := by
    rw [hruns]
    exact hlength
  obtain ⟨reading, hreads, hread, hplayed, hspelled⟩ := exists_reads_of_runs hempty
    (fun run hrun => htyped run.first (hfirst run hrun))
    (fun run hrun => (InputSequence.fitsDigit_of_mem_runsOf hrun).short) hcount
  rw [← InputSequence.chatOf_eq] at hreads
  refine ⟨reading, hreads, hread, hplayed, ?_, hspelled⟩
  rw [hplayed, length_replayed, hruns]

end ChatPad
