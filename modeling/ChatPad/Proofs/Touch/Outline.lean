import ChatPad.Proofs.Sequence.Typed
import ChatPad.Proofs.Touch.Eager

/-!
# Outlines

Whether sets are told apart depends on no more than the digits at their edges and their repeat digits.
The outline of a set holds these.  It can be taken of a set of a message and of a run that is typed in
chat, and is the same for both if the one spells the other.

* `PointChain.ends_iff`: how the sets of a chain end is told by their outlines;
* `Outline.ends_played`: if a message is eager, then so is what it plays, spelled set by set;
* `InputSequence.ends_runsOf`: if that is eager, then so are its runs, provided that their repeat
  digits stand apart.
-/

namespace ChatPad

/-! ## Digits at the edges -/

/-- The number of digits a text begins with. -/
def leadingDigits (text : List Char) : Nat := (text.takeWhile Text.isDigit).length

/-- The number of digits a text ends with. -/
def trailingDigits (text : List Char) : Nat := leadingDigits text.reverse

theorem leadingDigits_append {digits rest : List Char}
    (hdigits : ∀ c ∈ digits, Text.isDigit c = true) (hrest : Undigited rest) :
    leadingDigits (digits ++ rest) = digits.length := by
  rw [leadingDigits, takeWhile_isDigit hdigits hrest]

theorem trailingDigits_of_digits {digits : List Char} (hdigits : ∀ c ∈ digits, Text.isDigit c = true) :
    trailingDigits digits = digits.length := by
  have hreverse : ∀ c ∈ digits.reverse, Text.isDigit c = true :=
    fun c hc => hdigits c (List.mem_reverse.mp hc)
  have hleading := leadingDigits_append hreverse undigited_nil
  rw [List.append_nil, List.length_reverse] at hleading
  exact hleading

/-- Only what stands behind another character counts. -/
theorem trailingDigits_append_cons (before : List Char) {c : Char} (hc : Text.isDigit c = false)
    (behind : List Char) : trailingDigits (before ++ c :: behind) = trailingDigits behind := by
  have htake : ∀ l : List Char, (l ++ c :: before.reverse).takeWhile Text.isDigit =
      l.takeWhile Text.isDigit := by
    intro l
    induction l with
    | nil => simp [hc]
    | cons d l ih => simp only [List.cons_append, List.takeWhile_cons, ih]
  have hreverse : (before ++ c :: behind).reverse = behind.reverse ++ c :: before.reverse := by
    simp
  rw [trailingDigits, trailingDigits, leadingDigits, leadingDigits, hreverse, htake]

/-! ## Outlines -/

/-- The digits at the edges of a set, without its repeat digit, and that digit. -/
structure Outline where
  leading : Nat
  trailing : Nat
  times : Option Nat
deriving DecidableEq, Repr

namespace Outline

/-- The outline of a set that is typed like this. -/
def ofTyped (typed : List Char × Option Nat) : Outline :=
  ⟨leadingDigits typed.1, trailingDigits typed.1, typed.2⟩

/-- The number of digits in front of what follows. -/
def front : List Outline → Nat
  | [] => 0
  | o :: _ => o.leading

/-- Every set ends as `P` says, of the digits before and behind its end and of its repeat digit. -/
def Ends (P : Nat → Nat → Option Nat → Prop) : List Outline → Prop
  | [] => True
  | o :: later => P o.trailing (front later) o.times ∧ Ends P later

end Outline

def ReadSet.outline (set : ReadSet) : Outline := .ofTyped set.typed

def Run.outline (run : Run) : Outline := .ofTyped run.typed

/-- The outline of a set that is spelled out. -/
def InputSet.outline (set : InputSet) : Outline := .ofTyped (set.chat.toList, none)

/-! ## Outlines of chains -/

namespace PointChain

variable {g : Geometry} {limits : Limits} {c : PointChain}

theorem exists_first_set (c : PointChain) : ∃ y, c.set.first = pointToken c.x y := by
  cases c <;> exact ⟨_, rfl⟩

theorem leading_outline_set {tokens : Nat} (h : c.Fits g limits tokens) :
    c.set.outline.leading = c.x.length := by
  obtain ⟨y, hy⟩ := c.exists_first_set
  have htext : c.set.typed.1 = c.x ++ ',' :: (y ++ (c.set.timed none).toSetRest.text) := by
    show c.set.first.word ++ _ = _
    rw [hy, pointToken, List.append_assoc, List.cons_append]
  show leadingDigits _ = _
  rw [htext]
  exact leadingDigits_append (fits_x h).1.digits (undigited_comma _)

/-- A set of one point ends with the digits of that point, if it is not held. -/
theorem trailing_outline_single {x y : List Char} (hy : IsDigits y) (held : Bool)
    (times : Option Nat) :
    (ReadSet.outline ⟨⟨[], held, times⟩, pointToken x y⟩).trailing = endDigits held y := by
  have htext : (ReadSet.typed ⟨⟨[], held, times⟩, pointToken x y⟩).1 =
      x ++ ',' :: (y ++ holdText held) := by
    simp [ReadSet.typed, ReadSet.timed, ReadSet.text, SetRest.text, moreText, timesText, pointToken]
  show trailingDigits _ = _
  rw [htext, trailingDigits_append_cons x (by decide)]
  cases held with
  | false =>
    rw [holdText, if_neg Bool.false_ne_true, List.append_nil]
    exact trailingDigits_of_digits hy.digits
  | true => exact trailingDigits_append_cons y (by decide) []

/-- A point in front of a set does not change how it ends. -/
theorem trailing_outline_plus (x y : List Char) (later : PointChain) :
    (plus x y later).set.outline.trailing = later.set.outline.trailing := by
  have htext : (plus x y later).set.typed.1 = (x ++ ',' :: y) ++ '+' :: later.set.typed.1 := by
    rw [ReadSet.typed, ReadSet.typed, ReadSet.text, ReadSet.text]
    exact congrArg (_ ++ ·) (SetRest.text_cons later.set.first later.set.more later.set.held none)
  show trailingDigits _ = trailingDigits _
  rw [htext]
  exact trailingDigits_append_cons _ (by decide) _

/-- **How the sets of a chain end is told by their outlines.** -/
theorem ends_iff {P : Nat → Nat → Option Nat → Prop} (c : PointChain) :
    ∀ {tokens : Nat}, c.Fits g limits tokens →
      (c.Ends P ↔ Outline.Ends P (c.reading.map ReadSet.outline)) := by
  induction c with
  | last x y held times =>
    intro tokens h
    show _ ↔ P (set (last x y held times)).outline.trailing 0 times ∧ True
    rw [set, trailing_outline_single h.1.y, and_true]
    rfl
  | plus x y later ih =>
    intro tokens h
    show later.Ends P ↔ P (plus x y later).set.outline.trailing _ later.set.times ∧ _
    rw [trailing_outline_plus, ih h.2]
    rfl
  | next x y held times later ih =>
    intro tokens h
    show _ ↔ P (set (next x y held times later)).outline.trailing later.set.outline.leading times ∧
      Outline.Ends P (later.reading.map ReadSet.outline)
    rw [set, trailing_outline_single h.1.y, leading_outline_set h.2.2, ← ih h.2.2]
    rfl

end PointChain

/-! ## What is played -/

namespace Outline

variable {g : Geometry}

/-- The outlines of what is played, spelled set by set. -/
def played (outlines : List Outline) : List Outline :=
  outlines.flatMap fun o => List.replicate (o.times.getD 1) { o with times := none }

theorem front_played {outlines : List Outline} (h : ∀ o ∈ outlines, 0 < o.times.getD 1) :
    front (played outlines) = front outlines := by
  cases outlines with
  | nil => rfl
  | cons o later =>
    obtain ⟨n, hn⟩ := Nat.exists_eq_succ_of_ne_zero (h o List.mem_cons_self).ne'
    rw [played, List.flatMap_cons, hn]
    rfl

/-- A set that ends well in front of anything can be repeated. -/
theorem ends_replicate_append {P : Nat → Nat → Option Nat → Prop} {o : Outline} {later : List Outline}
    (ho : ∀ x, P o.trailing x o.times) (hlater : Ends P later) (n : Nat) :
    Ends P (List.replicate n o ++ later) := by
  induction n with
  | zero => exact hlater
  | succ n ih => exact ⟨ho _, ih⟩

/-- **If a message is eager, then so is what it plays**, spelled set by set. -/
theorem ends_played {outlines : List Outline} (hpositive : ∀ o ∈ outlines, 0 < o.times.getD 1)
    (h : Ends g.EagerEnd outlines) : Ends g.EagerEnd (played outlines) := by
  induction outlines with
  | nil => trivial
  | cons o later ih =>
    obtain ⟨ho, hlater⟩ := h
    obtain ⟨_, hpositive'⟩ := List.forall_mem_cons.mp hpositive
    have hagain := ih hpositive' hlater
    obtain ⟨leading, trailing, times⟩ := o
    cases times with
    | none =>
      refine ⟨?_, hagain⟩
      show g.Close trailing (front (played later))
      rw [front_played hpositive']
      exact ho
    | some count =>
      -- the digits of a set with a repeat digit are as many as they can be
      have hclose (x : Nat) : g.Close trailing x := by
        rcases ho.before with hnone | hfull
        · exact .inl hnone
        · exact .inr (.inl hfull)
      exact ends_replicate_append hclose hagain _

theorem ends_drop {P : Nat → Nat → Option Nat → Prop} {outlines : List Outline}
    (h : Ends P outlines) (n : Nat) : Ends P (outlines.drop n) := by
  induction n generalizing outlines with
  | zero => exact h
  | succ n ih =>
    cases outlines with
    | nil => trivial
    | cons o later => exact ih h.2

end Outline

/-! ## Runs -/

namespace InputSequence

variable {g : Geometry} {collapse : Bool}

theorem front_runsOf (sets : List InputSet) :
    Outline.front ((runsOf collapse sets).map Run.outline) =
      Outline.front (sets.map InputSet.outline) := by
  cases sets with
  | nil => rw [runsOf]; rfl
  | cons set later => rw [runsOf]; rfl

/-- **If sets that are spelled out are eager, then so are their runs**, provided that the repeat
digits stand apart. -/
theorem ends_runsOf (sets : List InputSet) (h : Outline.Ends g.EagerEnd (sets.map InputSet.outline))
    (hrepeats : Outline.Ends g.RepeatsApart ((runsOf collapse sets).map Run.outline)) :
    Outline.Ends g.EagerEnd ((runsOf collapse sets).map Run.outline) := by
  induction sets using runsOf.induct collapse with
  | case1 =>
    rw [runsOf]
    trivial
  | case2 set later ih =>
    rw [runsOf, List.map_cons] at hrepeats ⊢
    obtain ⟨hrepeat, hrepeats⟩ := hrepeats
    obtain ⟨hset, hlater⟩ := h
    have hdrop := Outline.ends_drop hlater (skippedAfter collapse set later)
    rw [← List.map_drop] at hdrop
    refine ⟨?_, ih hdrop hrepeats⟩
    cases hcopies : later.take (skippedAfter collapse set later) with
    | nil =>
      -- the next run begins with the next set
      have hrest : later.drop (skippedAfter collapse set later) = later := by
        have hsplit := List.take_append_drop (skippedAfter collapse set later) later
        rw [hcopies] at hsplit
        exact hsplit
      rw [front_runsOf, hrest]
      exact hset
    | cons copy copies =>
      rw [hcopies] at hrepeat
      exact hrepeat _ rfl (Nat.le_add_left 2 copies.length)

end InputSequence

end ChatPad
