import ChatPad.Proofs.Grammar.Candidates
import ChatPad.Proofs.Search.Ways

/-!
# Readings of a message

A reading is what a message says by its grammar: its sets, each with its tokens, its hold marker and
its repeat digit, and for each token the definition it belongs to.  It holds no offsets; they follow
from the texts of its parts.

* `Reads` says that a list of sets is a reading of a text within the limits;
* `Reading.captures` is the trace that a match leaves of a reading;
* `Reading.captures_injective`: a trace belongs to one reading only.
-/

namespace ChatPad

/-! ## The parts of a message -/

/-- A token of a message: the number of its definition, and its text. -/
structure ReadToken where
  definition : Nat
  word : List Char
deriving DecidableEq, Repr

/-- What is left of a set after a token: further tokens, whether it is held, its repeat digit. -/
structure SetRest where
  more : List ReadToken
  held : Bool
  times : Option Nat
deriving DecidableEq, Repr

/-- A set of a message. -/
structure ReadSet extends SetRest where
  first : ReadToken
deriving DecidableEq, Repr

/-- The sets of a message, first to last. -/
abbrev Reading := List ReadSet

/-- The tokens of a set in the order in which they stand. -/
def ReadSet.tokens (set : ReadSet) : List ReadToken := set.first :: set.more

/-! ## Texts -/

/-- The text of a hold marker. -/
def holdText (held : Bool) : List Char := if held then ['-'] else []

/-- The text of a repeat digit. -/
def timesText : Option Nat → List Char
  | none => []
  | some count => [Nat.digitChar count]

/-- The text of further tokens of a set. -/
def moreText (more : List ReadToken) : List Char := more.flatMap fun t => '+' :: t.word

def SetRest.text (rest : SetRest) : List Char :=
  moreText rest.more ++ (holdText rest.held ++ timesText rest.times)

theorem SetRest.text_cons (t : ReadToken) (more : List ReadToken) (held : Bool)
    (times : Option Nat) : SetRest.text ⟨t :: more, held, times⟩ =
      '+' :: (t.word ++ SetRest.text ⟨more, held, times⟩) := by
  simp only [text, moreText, List.flatMap_cons, List.cons_append, List.append_assoc]

def ReadSet.text (set : ReadSet) : List Char := set.first.word ++ set.toSetRest.text

def Reading.text (sets : Reading) : List Char := sets.flatMap ReadSet.text

/-! ## Offsets -/

theorem utf8Size_digitChar (n : Nat) : (Nat.digitChar n).utf8Size = 1 := by
  have hsmall : ∀ n < 16, (Nat.digitChar n).utf8Size = 1 := by decide
  rcases Nat.lt_or_ge n 16 with hn | hn
  · exact hsmall n hn
  · rw [Nat.digitChar_eq_star.mpr hn]
    rfl

theorem byteLength_timesText_some (count : Nat) : Text.byteLength (timesText (some count)) = 1 :=
  utf8Size_digitChar count

/-- A further token takes its own width and that of the `+` before it. -/
theorem SetRest.offset_text_cons (offset : Nat) (t : ReadToken) (more : List ReadToken)
    (held : Bool) (times : Option Nat) :
    offset + Text.byteLength (SetRest.text ⟨t :: more, held, times⟩) =
      offset + 1 + Text.byteLength t.word + Text.byteLength (SetRest.text ⟨more, held, times⟩) := by
  rw [SetRest.text_cons, Text.byteLength, Text.byteLength_append, ← Nat.add_assoc,
    ← Nat.add_assoc]
  rfl

theorem SetRest.offset_text_hold (offset : Nat) (times : Option Nat) :
    offset + Text.byteLength (SetRest.text ⟨[], true, times⟩) =
      offset + 1 + Text.byteLength (timesText times) := by
  rw [Nat.add_assoc]
  rfl

/-! ## Traces -/

/-- What a token records that begins at an offset. -/
def ReadToken.capture (t : ReadToken) (slot : Slot) (offset : Nat) : Capture :=
  .token t.definition slot offset (offset + Text.byteLength t.word) t.word

/-- What the end of a set records that begins at `start`. -/
def timesCaptures (start offset : Nat) : Option Nat → List Capture
  | none => [.set start offset]
  | some count => [.times offset count, .set start (offset + 1)]

def holdCaptures (start offset : Nat) (times : Option Nat) : Bool → List Capture
  | false => timesCaptures start offset times
  | true => .hold offset :: timesCaptures start (offset + 1) times

/-- What the rest of a set records after a token that ends at an offset. -/
def restCaptures (start : Nat) (held : Bool) (times : Option Nat) :
    Nat → List ReadToken → List Capture
  | offset, [] => holdCaptures start offset times held
  | offset, t :: more =>
    t.capture .additional (offset + 1) ::
      restCaptures start held times (offset + 1 + Text.byteLength t.word) more

def SetRest.captures (rest : SetRest) (start offset : Nat) : List Capture :=
  restCaptures start rest.held rest.times offset rest.more

def ReadSet.captures (set : ReadSet) (offset : Nat) : List Capture :=
  set.first.capture .leading offset ::
    set.toSetRest.captures offset (offset + Text.byteLength set.first.word)

/-- What a message records that begins at an offset. -/
def Reading.captures : Nat → Reading → List Capture
  | _, [] => []
  | offset, set :: later =>
    set.captures offset ++ Reading.captures (offset + Text.byteLength set.text) later

theorem ReadToken.capture_injective (slot : Slot) (offset : Nat) :
    Function.Injective fun t : ReadToken => t.capture slot offset := by
  intro t t' h
  have hdefinition : t.definition = t'.definition := by injection h
  have hword : t.word = t'.word := by injection h
  cases t
  cases t'
  rw [ReadToken.mk.injEq]
  exact ⟨hdefinition, hword⟩

theorem holdCaptures_append_inj {start offset : Nat} {held held' : Bool} {times times' : Option Nat}
    {after after' : List Capture} (h : holdCaptures start offset times held ++ after =
      holdCaptures start offset times' held' ++ after') :
    held = held' ∧ times = times' ∧ after = after' := by
  cases held <;> cases held' <;> cases times <;> cases times' <;>
    simp_all [holdCaptures, timesCaptures]

theorem restCaptures_append_inj {start : Nat} {held held' : Bool} {times times' : Option Nat}
    {after after' : List Capture} (more : List ReadToken) :
    ∀ (offset : Nat) (more' : List ReadToken), restCaptures start held times offset more ++ after =
      restCaptures start held' times' offset more' ++ after' →
      more = more' ∧ held = held' ∧ times = times' ∧ after = after' := by
  -- what follows the last token of a set is never a token
  have hfirst (offset : Nat) (held : Bool) (times : Option Nat) (t : ReadToken)
      (l l' : List Capture) :
      holdCaptures start offset times held ++ l ≠ t.capture .additional (offset + 1) :: l' := by
    cases held <;> cases times <;> intro h <;> cases h
  induction more with
  | nil =>
    intro offset more' h
    cases more' with
    | nil => exact ⟨rfl, holdCaptures_append_inj h⟩
    | cons t more' => exact absurd h (hfirst offset held times t _ _)
  | cons t more ih =>
    intro offset more' h
    cases more' with
    | nil => exact absurd h.symm (hfirst offset held' times' t _ _)
    | cons t' more' =>
      obtain ⟨hcapture, hrest⟩ := List.cons.inj h
      obtain rfl := ReadToken.capture_injective _ _ hcapture
      obtain ⟨rfl, hlater⟩ := ih _ more' hrest
      exact ⟨rfl, hlater⟩

/-- **A trace belongs to one reading only.** -/
theorem Reading.captures_injective (offset : Nat) :
    Function.Injective (Reading.captures offset) := by
  intro sets
  induction sets generalizing offset with
  | nil =>
    intro sets' h
    cases sets' with
    | nil => rfl
    | cons set' later' => cases h
  | cons set later ih =>
    intro sets' h
    cases sets' with
    | nil => cases h
    | cons set' later' =>
      obtain ⟨⟨more, held, times⟩, first⟩ := set
      obtain ⟨⟨more', held', times'⟩, first'⟩ := set'
      obtain ⟨hcapture, hrest⟩ := List.cons.inj h
      obtain rfl := ReadToken.capture_injective _ _ hcapture
      obtain ⟨rfl, rfl, rfl, hlater⟩ := restCaptures_append_inj more _ more' hrest
      rw [ih _ hlater]

/-! ## What the grammar allows -/

/-- The token is not empty, and its definition allows it. -/
structure ReadToken.Valid (definitions : List Definition) (t : ReadToken) : Prop where
  ne_nil : t.word ≠ []
  matched : ∃ d, definitions[t.definition]? = some d ∧ d.fragment.Matches t.word

/-- The repeat digit is one that the limits allow. -/
def Limits.AllowsTimes (limits : Limits) (count : Nat) : Prop :=
  1 < limits.sequenceLength ∧ 1 ≤ count ∧ count ≤ limits.largestRepeat

/-- The rest of a set that already has some tokens keeps the limits. -/
structure SetRest.Valid (definitions : List Definition) (limits : Limits) (tokens : Nat)
    (rest : SetRest) : Prop where
  more : ∀ t ∈ rest.more, t.Valid definitions
  length : tokens + rest.more.length ≤ limits.setLength
  held : rest.held = true → limits.hold = true
  times : ∀ count ∈ rest.times, limits.AllowsTimes count

structure ReadSet.Valid (definitions : List Definition) (limits : Limits) (set : ReadSet) :
    Prop where
  first : set.first.Valid definitions
  rest : set.toSetRest.Valid definitions limits 1

theorem ReadSet.Valid.tokens {definitions : List Definition} {limits : Limits} {set : ReadSet}
    (hset : set.Valid definitions limits) : ∀ t ∈ set.tokens, t.Valid definitions := by
  intro t ht
  rcases List.mem_cons.mp ht with rfl | ht
  · exact hset.first
  · exact hset.rest.more t ht

/-- **The readings of a text**: at least one set, no more sets than the limits allow, each set as the
grammar allows it, and together they spell the text. -/
structure Reads (definitions : List Definition) (limits : Limits) (text : List Char)
    (sets : Reading) : Prop where
  ne_nil : sets ≠ []
  length : sets.length ≤ limits.sequenceLength
  valid : ∀ set ∈ sets, set.Valid definitions limits
  text : text = Reading.text sets

end ChatPad
