import ChatPad.Grammar.Search
import ChatPad.Proofs.Bytes.Fragment
import ChatPad.Proofs.Grammar.Candidates
import ChatPad.Proofs.Search.Ways

/-!
# Matching by byte offset

`Bytes.marks?` matches a message as a program does that keeps its place as a byte offset, looks
alternatives up by their numbers, and records where tokens stand but not what they are.  Each access
can fail, and so can the search as a whole, by going on for more rounds than it was given.

* `Bytes.Agrees`: an attempt of the search and a move of such a program do the same, and the move does
  not fail; there is one lemma for each way to put attempts together;
* `Bytes.agrees_tokenEnd`: so it is for the search from the end of a token on, by induction on the
  rounds, for every place that lies between characters and leaves fewer characters than rounds;
* `Bytes.marks?_eq`: matching does not fail, and records where the captures of the grammar stand.
-/

namespace ChatPad

namespace Bytes

/-! ## What is recorded -/

/-- What a match records, without the texts of tokens. -/
inductive Mark where
  | token (alternative : Nat) (slot : Slot) (start stop : Nat)
  | hold (offset : Nat)
  | times (offset count : Nat)
  | set (start stop : Nat)
deriving DecidableEq, Repr

/-- A capture without the text of its token. -/
def markOf : Capture → Mark
  | .token alternative slot start stop _ => .token alternative slot start stop
  | .hold offset => .hold offset
  | .times offset count => .times offset count
  | .set start stop => .set start stop

/-- What a matcher has recorded, newest first, and which states it knows to lead nowhere. -/
structure Track where
  marks : List Mark
  failed : Memo

namespace Track

def record (track : Track) (mark : Mark) : Track := { track with marks := mark :: track.marks }

/-- Takes back all marks but the oldest `count`. -/
def truncate (track : Track) (count : Nat) : Track :=
  { track with marks := track.marks.drop (track.marks.length - count) }

/-- Takes marks back and remembers that a state leads nowhere. -/
def fail (track : Track) (state : SearchState) (count : Nat) : Track :=
  { track.truncate count with failed := track.failed.insert state }

end Track

/-- A step of a matcher: whether it succeeds, and the track it leaves. -/
abbrev Move := Track → Except Fault (Bool × Track)

namespace Move

def never : Move := fun track => .ok (false, track)

def done : Move := fun track => .ok (true, track)

/-- Makes one move, and the other if it does not succeed. -/
def orElse (first second : Move) : Move := fun track => do
  let (found, track) ← first track
  if found then .ok (true, track) else second track

/-- Makes moves in order until one succeeds. -/
def firstOf : List Move → Move
  | [] => never
  | move :: later => orElse move (firstOf later)

/-- Records a mark for the move. -/
def recording (mark : Mark) (move : Move) : Move := fun track => move (track.record mark)

/-- Hands the number of marks on the track to the move. -/
def marking (move : Nat → Move) : Move := fun track => move track.marks.length track

/-- Goes back to a number of marks if the move does not succeed. -/
def restoring (count : Nat) (move : Move) : Move := fun track => do
  let (found, after) ← move track
  if found then .ok (true, after) else .ok (false, after.truncate count)

/-- Does not succeed from a state that is known to lead nowhere; otherwise makes the move, which is
handed the number of marks, and if it does not succeed, goes back to them and remembers the state. -/
def unlessKnown (state : SearchState) (move : Nat → Move) : Move := fun track =>
  if track.failed.contains state then .ok (false, track)
  else do
    let (found, after) ← move track.marks.length track
    if found then .ok (true, after) else .ok (false, after.fail state track.marks.length)

/-- Goes on with what an access gives. -/
def reading {α : Type} (access : Except Fault α) (move : α → Move) : Move := fun track => do
  let value ← access
  move value track

end Move

/-! ## The matcher -/

section Matcher

variable (g : Grammar) (text : List Char)

/-- The numbers of the alternatives worth trying at an offset. -/
def candidates (offset : Nat) : Except Fault (List Nat) := do
  let rest ← textFrom text offset
  .ok ((g.candidatesAt rest).map Alternative.id)

variable (tokenEnd : Nat → Nat → Nat → Nat → Move)

/-- Tries each token at an offset, one alternative after the other. -/
def token (start offset : Nat) (slot : Slot) (tokens sets : Nat) : Move :=
  .reading (candidates g text offset) fun ids =>
    .firstOf <| ids.map fun id =>
      .reading (entryAt g.alternatives id) fun alternative =>
        .reading (endsAt alternative.fragment text offset) fun ends =>
          .firstOf <| (ends.filter (· != offset)).map fun stop =>
            .marking fun count => .restoring count <|
              .recording (.token id slot offset stop) (tokenEnd start stop (tokens + 1) sets)

def setStart (offset sets : Nat) : Move :=
  .unlessKnown ⟨.setStart, offset, 0, sets⟩ fun _ =>
    token g text tokenEnd offset offset .leading 0 sets

def setEnd (start offset sets : Nat) : Move :=
  .unlessKnown ⟨.setEnd, offset, 0, sets⟩ fun _ =>
    .recording (.set start offset) <|
      .orElse
        (if sets + 1 < g.limits.sequenceLength ∧ offset < Text.byteLength text then
          setStart g text tokenEnd offset (sets + 1)
        else .never)
        (if offset = Text.byteLength text then .done else .never)

/-- A repeat digit.  Subtracting from a byte goes round below zero, so the count means something only
if the byte is a digit. -/
def repeated (start offset sets : Nat) : Move :=
  if 1 < g.limits.sequenceLength then
    match byteAt? text offset with
    | none => .never
    | some byte =>
      let count := (byte - 48).toNat
      if isDigit byte ∧ 1 ≤ count ∧ count ≤ g.limits.largestRepeat then
        .recording (.times offset count) (setEnd g text tokenEnd start (offset + 1) sets)
      else .never
  else .never

def holdEnd (start offset sets : Nat) : Move :=
  .unlessKnown ⟨.holdEnd, offset, 0, sets⟩ fun _ =>
    .orElse (setEnd g text tokenEnd start offset sets) (repeated g text tokenEnd start offset sets)

/-- A move that is made if a character stands at an offset. -/
def ifNext (c : Char) (offset : Nat) (move : Move) : Move :=
  .reading (textFrom text offset) fun rest => if rest.head? = some c then move else .never

def tokenEndRound (start offset tokens sets : Nat) : Move :=
  .unlessKnown ⟨.tokenEnd, offset, tokens, sets⟩ fun count =>
    .orElse
      (if tokens < g.limits.setLength then
        ifNext text '+' offset (token g text tokenEnd start (offset + 1) .additional tokens sets)
      else .never) <|
    .orElse
      (if g.limits.hold then
        ifNext text '-' offset <| .restoring count <|
          .recording (.hold offset) (holdEnd g text tokenEnd start (offset + 1) sets)
      else .never)
      (holdEnd g text tokenEnd start offset sets)

end Matcher

/-- The search from the end of a token on.  It fails if it goes on for more rounds than it has. -/
def tokenEnd (g : Grammar) (text : List Char) : Nat → Nat → Nat → Nat → Nat → Move
  | 0, _, _, _, _ => fun _ => .error .rounds
  | rounds + 1, start, offset, tokens, sets =>
    tokenEndRound g text (tokenEnd g text rounds) start offset tokens sets

/-- The marks of the first way to read a whole text, if there is one. -/
def marks? (g : Grammar) (text : List Char) : Except Fault (Option (List Mark)) :=
  if text = [] then .ok none
  else do
    let (found, track) ← setStart g text (tokenEnd g text text.length) 0 0 ⟨[], ∅⟩
    .ok (if found then some track.marks.reverse else none)

/-! ## Agreement -/

/-- The trail of a search without the texts of its tokens. -/
def trackOf (trail : Trail) : Track := ⟨trail.captures.map markOf, trail.failed⟩

/-- **The move does what the attempt does, and does not fail.** -/
def Agrees (attempt : Attempt) (move : Move) : Prop :=
  ∀ trail, move (trackOf trail) = .ok ((attempt trail).1, trackOf (attempt trail).2)

namespace Agrees

variable {attempt first second : Attempt} {move firstMove secondMove : Move}

theorem never : Agrees Attempt.never Move.never := fun _ => rfl

theorem done : Agrees Attempt.done Move.done := fun _ => rfl

theorem orElse (hfirst : Agrees first firstMove) (hsecond : Agrees second secondMove) :
    Agrees (Attempt.orElse first second) (Move.orElse firstMove secondMove) := by
  intro trail
  rw [Move.orElse, hfirst trail, Attempt.orElse]
  cases first trail with
  | mk found after =>
    cases found with
    | true => rfl
    | false => exact hsecond after

theorem firstOf {α : Type} {l : List α} {f : α → Attempt} {f' : α → Move}
    (h : ∀ a ∈ l, Agrees (f a) (f' a)) :
    Agrees (Attempt.firstOf (l.map f)) (Move.firstOf (l.map f')) := by
  induction l with
  | nil => exact never
  | cons a l ih =>
    obtain ⟨ha, hl⟩ := List.forall_mem_cons.mp h
    exact orElse ha (ih hl)

theorem ifElse {p q : Prop} [Decidable p] [Decidable q] (hpq : p ↔ q)
    (h : p → Agrees attempt move) :
    Agrees (if p then attempt else Attempt.never) (if q then move else Move.never) := by
  by_cases hp : p
  · rw [if_pos hp, if_pos (hpq.mp hp)]
    exact h hp
  · rw [if_neg hp, if_neg fun hq => hp (hpq.mpr hq)]
    exact never

theorem reading {α : Type} {access : Except Fault α} {value : α} {move : α → Move}
    (haccess : access = .ok value) (h : Agrees attempt (move value)) :
    Agrees attempt (Move.reading access move) := by
  intro trail
  rw [Move.reading, haccess]
  exact h trail

/-- Taking captures back takes back their marks. -/
theorem trackOf_rewind (trail : Trail) (count : Nat) :
    trackOf (trail.rewind count) = (trackOf trail).truncate count := by
  rw [trackOf, Track.truncate, trackOf, List.length_map, ← trail.count_eq, Trail.rewind,
    List.map_drop]

theorem length_marks_trackOf (trail : Trail) : (trackOf trail).marks.length = trail.count := by
  rw [trackOf, List.length_map, trail.count_eq]

theorem recording (capture : Capture) (h : Agrees attempt move) :
    Agrees (Attempt.recording capture attempt) (Move.recording (markOf capture) move) :=
  fun trail => h (trail.record capture)

theorem marking {attempt : Nat → Attempt} {move : Nat → Move}
    (h : ∀ count, Agrees (attempt count) (move count)) :
    Agrees (Attempt.marking attempt) (Move.marking move) := by
  intro trail
  rw [Move.marking, length_marks_trackOf]
  exact h trail.count trail

theorem restoring (count : Nat) (h : Agrees attempt move) :
    Agrees (Attempt.restoring count attempt) (Move.restoring count move) := by
  intro trail
  rw [Move.restoring, h trail, Attempt.restoring]
  cases attempt trail with
  | mk found after =>
    cases found with
    | true => rfl
    | false =>
      rw [trackOf_rewind]
      rfl

theorem unlessKnown (state : SearchState) {attempt : Nat → Attempt} {move : Nat → Move}
    (h : ∀ count, Agrees (attempt count) (move count)) :
    Agrees (Attempt.unlessKnown (fun failed state => failed.contains state) state attempt)
      (Move.unlessKnown state move) := by
  intro trail
  rw [Move.unlessKnown, Attempt.unlessKnown, length_marks_trackOf]
  show (if trail.failed.contains state then _ else _) = _
  cases hknown : trail.failed.contains state with
  | true => rfl
  | false =>
    simp only [Bool.false_eq_true, if_false, h trail.count trail]
    cases attempt trail.count trail with
    | mk found after =>
      cases found with
      | true => rfl
      | false =>
        show Except.ok (false, (trackOf after).fail state trail.count) = _
        rw [Track.fail, ← trackOf_rewind]
        rfl

end Agrees

end Bytes

/-! ## Places in a message -/

namespace Cursor.IsOn

open Bytes

variable {text : List Char} {here : Cursor}

theorem textFrom_eq (h : here.IsOn text) : textFrom text here.offset = .ok here.rest := by
  obtain ⟨before, htext, hoffset⟩ := h
  rw [hoffset, htext, textFrom_append]

theorem byteAt?_eq (h : here.IsOn text) : byteAt? text here.offset = (ofText here.rest).head? := by
  obtain ⟨before, htext, hoffset⟩ := h
  rw [hoffset, htext, byteAt?_append]

theorem endsAt_eq (h : here.IsOn text) (f : Fragment) : endsAt f text here.offset =
    .ok ((f.ends here.rest).map fun n => (here.advance n).offset) := by
  obtain ⟨before, htext, hoffset⟩ := h
  have hplace (n : Nat) : (here.advance n).offset = placeAfter before here.rest n := by
    rw [advance_eq, placeAfter_eq, hoffset]
  rw [funext hplace, hoffset, htext, endsAt_append]

theorem rest_eq_nil_iff (h : here.IsOn text) :
    here.rest = [] ↔ here.offset = Text.byteLength text := by
  obtain ⟨before, rfl, hoffset⟩ := h
  rw [Text.byteLength_append, hoffset]
  constructor
  · intro hrest
    rw [hrest]
    rfl
  · intro hlength
    by_contra hne
    have := Text.byteLength_pos hne
    omega

theorem rest_ne_nil_iff (h : here.IsOn text) :
    here.rest ≠ [] ↔ here.offset < Text.byteLength text := by
  rw [Ne, h.rest_eq_nil_iff]
  obtain ⟨before, rfl, hoffset⟩ := h
  rw [Text.byteLength_append]
  omega

end Cursor.IsOn

/-- A token that is not empty ends somewhere else. -/
theorem Cursor.offset_advance_ne_iff {here : Cursor} {n : Nat} (hn : n ≤ here.rest.length) :
    (here.advance n).offset ≠ here.offset ↔ 0 < n := by
  rw [advance_eq]
  constructor
  · intro hne
    rw [Nat.pos_iff_ne_zero]
    rintro rfl
    exact hne rfl
  · intro hpos
    have hword : here.rest.take n ≠ [] := by
      rw [← List.length_pos_iff, List.length_take_of_le hn]
      exact hpos
    have := Text.byteLength_pos hword
    show here.offset + _ ≠ here.offset
    omega

/-- A character of one byte is passed by going one byte further. -/
theorem Cursor.offset_next {here : Cursor} {c : Char} (hc : c.utf8Size = 1)
    (hnext : here.rest.head? = some c) : here.next.offset = here.offset + 1 := by
  obtain ⟨offset, rest⟩ := here
  cases rest with
  | nil => cases hnext
  | cons c' rest =>
    obtain rfl := Option.some.inj hnext
    exact congrArg (offset + ·) hc

namespace Bytes

/-! ## The search -/

section Search

variable {definitions : List Definition} {limits : Limits} {g : Grammar} {text : List Char}
  {rounds : Nat} {after : TokenEnd} {after' : Nat → Nat → Nat → Nat → Move} {here : Cursor}

/-- What happens after a token agrees wherever fewer characters are left than rounds. -/
def AgreesAfter (text : List Char) (rounds : Nat) (after : TokenEnd)
    (after' : Nat → Nat → Nat → Nat → Move) : Prop :=
  ∀ start here tokens sets, here.IsOn text → here.rest.length < rounds →
    Agrees (after start here tokens sets) (after' start here.offset tokens sets)

/-- Alternatives stand at their numbers. -/
theorem entryAt_alternatives (h : Grammar.compile definitions limits = .ok g) {id : Nat}
    {d : Definition} (hd : definitions[id]? = some d) :
    entryAt g.alternatives id = .ok ⟨id, d.fragment, d.description⟩ := by
  obtain ⟨_, _, _, rfl⟩ := Grammar.compile_eq_ok_iff.mp h
  rw [entryAt_eq_ok_iff, Grammar.alternativesOf, List.getElem?_map, List.getElem?_zipIdx, hd,
    Nat.zero_add]
  rfl

theorem entryAt_of_mem_candidatesAt (h : Grammar.compile definitions limits = .ok g)
    {rest : List Char} {a : Alternative} (ha : a ∈ g.candidatesAt rest) :
    entryAt g.alternatives a.id = .ok a := by
  rw [Grammar.candidatesAt_eq_filter h] at ha
  obtain ⟨_, _, _, rfl⟩ := Grammar.compile_eq_ok_iff.mp h
  obtain ⟨d, hd, hlabel⟩ := Grammar.mem_alternativesOf_iff.mp (List.mem_filter.mp ha).1
  rw [entryAt_alternatives h hd]
  exact congrArg Except.ok hlabel.symm

/-- What a byte counts to is what its character counts to, if that is a digit. -/
theorem toNat_sub_of_isDigit {byte : UInt8} {c : Char} (hbyte : isDigit byte = true)
    (hvalue : byte.toNat = c.toNat) : (byte - 48).toNat = Text.digitValue c := by
  have hle : (48 : UInt8) ≤ byte := UInt8.le_iff_toNat_le.mpr ((isDigit_iff byte).mp hbyte).1
  rw [UInt8.toNat_sub_of_le _ _ hle, hvalue]
  rfl

theorem agrees_ifNext (hon : here.IsOn text) (c : Char) {p : Prop} [Decidable p]
    {attempt : Attempt} {move : Move}
    (hnext : here.rest.head? = some c → Agrees attempt move) :
    Agrees (if p ∧ here.rest.head? = some c then attempt else Attempt.never)
      (if p then ifNext text c here.offset move else Move.never) := by
  by_cases hp : p
  · rw [if_pos hp]
    refine .reading hon.textFrom_eq ?_
    by_cases hc : here.rest.head? = some c
    · rw [if_pos ⟨hp, hc⟩, if_pos hc]
      exact hnext hc
    · rw [if_neg fun h => hc h.2, if_neg hc]
      exact .never
  · rw [if_neg fun h => hp h.1, if_neg hp]
    exact .never

section Round

-- one round of the search, with what comes after a token and a place of the text
variable (h : Grammar.compile definitions limits = .ok g)
  (hafter : AgreesAfter text rounds after after') (hon : here.IsOn text)
  (hrounds : here.rest.length ≤ rounds)

include h hafter hon hrounds

theorem agrees_token (start : Nat) (slot : Slot) (tokens sets : Nat) :
    Agrees (g.search.token after start here slot tokens sets)
      (token g text after' start here.offset slot tokens sets) := by
  have hids : candidates g text here.offset = .ok ((g.candidatesAt here.rest).map Alternative.id) := by
    rw [candidates, hon.textFrom_eq]
    rfl
  refine .reading hids ?_
  rw [List.map_map]
  refine .firstOf fun a ha => .reading (entryAt_of_mem_candidatesAt h ha) ?_
  refine .reading (hon.endsAt_eq a.fragment) ?_
  have hle : ∀ n ∈ a.fragment.ends here.rest, n ≤ here.rest.length :=
    fun n hn => ((Fragment.mem_ends_iff _ _ n).mp hn).1
  -- leaving out the offset where the token begins is leaving out the empty token
  have hstops : ((a.fragment.ends here.rest).map fun n => (here.advance n).offset).filter
      (· != here.offset) =
        ((a.fragment.ends here.rest).filter (0 < ·)).map fun n => (here.advance n).offset := by
    rw [List.filter_map]
    refine congrArg _ (List.filter_congr fun n hn => ?_)
    rw [Bool.eq_iff_iff, Function.comp_apply, bne_iff_ne, decide_eq_true_eq]
    exact Cursor.offset_advance_ne_iff (hle n hn)
  rw [hstops, List.map_map]
  refine .firstOf fun n hn => .marking fun count => .restoring count (.recording _ ?_)
  refine hafter start _ _ sets (hon.advance n) ?_
  obtain ⟨hmem, hpos⟩ := List.mem_filter.mp hn
  rw [decide_eq_true_eq] at hpos
  have := hle n hmem
  rw [Cursor.advance_eq, List.length_drop]
  omega

theorem agrees_setStart (sets : Nat) :
    Agrees (g.search.setStart after here sets) (setStart g text after' here.offset sets) :=
  .unlessKnown _ fun _ => agrees_token h hafter hon hrounds here.offset .leading 0 sets

theorem agrees_setEnd (start sets : Nat) :
    Agrees (g.search.setEnd after start here sets) (setEnd g text after' start here.offset sets) := by
  refine .unlessKnown _ fun _ => .recording (.set start here.offset) (.orElse ?_ ?_)
  · exact .ifElse (and_congr_right' hon.rest_ne_nil_iff) fun _ =>
      agrees_setStart h hafter hon hrounds (sets + 1)
  · exact .ifElse hon.rest_eq_nil_iff fun _ => .done

theorem agrees_repeated (start sets : Nat) :
    Agrees (match g.limits.repeatDigit? here.rest with
      | some count =>
        Attempt.recording (.times here.offset count) (g.search.setEnd after start here.next sets)
      | none => Attempt.never)
      (repeated g text after' start here.offset sets) := by
  rw [repeated, hon.byteAt?_eq]
  cases hbyte : (ofText here.rest).head? with
  | none =>
    rw [eq_nil_of_head?_ofText hbyte]
    show Agrees Attempt.never _
    split
    · exact .never
    · exact .never
  | some byte =>
    obtain ⟨c, rest, hrest, hdigit, hvalue⟩ := head?_ofText here.rest byte hbyte
    rw [hrest, Limits.repeatDigit?]
    show Agrees _
      (if 1 < g.limits.sequenceLength then if isDigit byte = true ∧ _ then _ else _ else _)
    by_cases hmany : 1 < g.limits.sequenceLength
    · by_cases hc : Text.isDigit c = true
      · have hoffset := Cursor.offset_next (utf8Size_of_isDigit hc) (congrArg List.head? hrest)
        rw [if_pos hmany, hdigit, toNat_sub_of_isDigit (hdigit.trans hc) (hvalue hc), ← hoffset]
        by_cases hcount : 1 ≤ Text.digitValue c ∧ Text.digitValue c ≤ g.limits.largestRepeat
        · rw [if_pos ⟨hmany, hc, hcount⟩, if_pos ⟨hc, hcount⟩]
          exact .recording _ (agrees_setEnd h hafter (hon.advance 1)
            (Nat.le_trans here.length_rest_next_le hrounds) start sets)
        · rw [if_neg fun h => hcount h.2.2, if_neg fun h => hcount h.2]
          exact .never
      · rw [if_pos hmany, if_neg fun h => hc h.2.1, if_neg fun h => hc (hdigit ▸ h.1)]
        exact .never
    · rw [if_neg hmany, if_neg fun h => hmany h.1]
      exact .never

theorem agrees_holdEnd (start sets : Nat) :
    Agrees (g.search.holdEnd after start here sets) (holdEnd g text after' start here.offset sets) :=
  .unlessKnown _ fun _ => .orElse (agrees_setEnd h hafter hon hrounds start sets)
    (agrees_repeated h hafter hon hrounds start sets)

theorem agrees_tokenEndRound (start tokens sets : Nat) :
    Agrees (g.search.tokenEndRound after start here tokens sets)
      (tokenEndRound g text after' start here.offset tokens sets) := by
  have hnext : here.next.rest.length ≤ rounds := Nat.le_trans here.length_rest_next_le hrounds
  refine .unlessKnown _ fun count => .orElse ?_ (.orElse ?_ ?_)
  · refine agrees_ifNext hon '+' fun hplus => ?_
    rw [← Cursor.offset_next rfl hplus]
    exact agrees_token h hafter (hon.advance 1) hnext start .additional tokens sets
  · refine agrees_ifNext hon '-' fun hdash => ?_
    rw [← Cursor.offset_next rfl hdash]
    exact .restoring count (.recording (.hold here.offset)
      (agrees_holdEnd h hafter (hon.advance 1) hnext start sets))
  · exact agrees_holdEnd h hafter hon hrounds start sets

end Round

/-- **From the end of a token on**, the search agrees, and it does not run out of rounds: each token
that follows takes a character. -/
theorem agrees_tokenEnd (h : Grammar.compile definitions limits = .ok g) (text : List Char)
    (rounds : Nat) : AgreesAfter text rounds (g.search.tokenEnd rounds) (tokenEnd g text rounds) := by
  induction rounds with
  | zero => exact fun _ _ _ _ _ hlt => absurd hlt (Nat.not_lt_zero _)
  | succ rounds ih =>
    intro start here tokens sets hon hlt
    exact agrees_tokenEndRound h ih hon (Nat.le_of_lt_succ hlt) start tokens sets

/-- **Matching does not fail**, and records where the captures of the grammar stand. -/
theorem marks?_eq (h : Grammar.compile definitions limits = .ok g) (text : List Char) :
    marks? g text = .ok ((g.captures? text).map fun captures => captures.map markOf) := by
  rw [marks?, Grammar.captures?, Search.captures?]
  by_cases htext : text = []
  · rw [if_pos htext, if_pos htext]
    rfl
  · have hstart : setStart g text (tokenEnd g text text.length) 0 0 ⟨[], ∅⟩ = .ok _ :=
      agrees_setStart h (agrees_tokenEnd h text text.length) (Cursor.isOn_start text)
        (Nat.le_refl _) 0 .start
    rw [if_neg htext, if_neg htext, hstart]
    cases g.search.setStart (g.search.tokenEnd text.length) ⟨0, text⟩ 0 .start with
    | mk found trail =>
      cases found with
      | true =>
        show Except.ok (some (trail.captures.map markOf).reverse) = _
        rw [← List.map_reverse]
        rfl
      | false => rfl

end Search

end Bytes

end ChatPad
