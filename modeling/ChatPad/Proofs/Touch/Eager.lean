import ChatPad.Proofs.Message.Unambiguous
import ChatPad.Proofs.Touch.Chain

/-!
# Digits between two points

Between the comma of a point and the comma of the next one stand the digits of both, and nothing but a
hold marker and a repeat digit can tell them apart.  The parser is eager: it gives the first point all
the digits that it can have, and takes a digit for a repetition only if there is no other way.

* `Link.exists_rereads`: the digits of any two points can be shared out eagerly;
* `PointChain.exists_rereads`: so every chain has the text of an eager one.  It plays no more, and as much
  only if the repeat digits of the chain stand apart from the digits around them.
-/

namespace ChatPad

/-! ## Two points in a row -/

namespace Geometry

/-- A repeat digit between `y` and `x` digits can be told from them: there are none on a side, or as
many as can be. -/
structure Apart (g : Geometry) (y x : Nat) : Prop where
  before : y = 0 ∨ y = g.yDigits
  behind : x = 0 ∨ x = g.xDigits

/-- `y` digits cannot have one more of the `x` digits behind them. -/
def Close (g : Geometry) (y x : Nat) : Prop := y = 0 ∨ y = g.yDigits ∨ x ≤ 1

/-- A set that ends in `y` digits ends eagerly in front of `x` digits. -/
def EagerEnd (g : Geometry) (y x : Nat) : Option Nat → Prop
  | none => g.Close y x
  | some _ => g.Apart y x

/-- A set that ends in `y` digits in front of `x` digits is seen to be repeated. -/
def RepeatsApart (g : Geometry) (y x : Nat) (times : Option Nat) : Prop :=
  ∀ count ∈ times, 2 ≤ count → g.Apart y x

end Geometry

/-- The number of digits at the end of a set before its repeat digit. -/
def endDigits (held : Bool) (y : List Char) : Nat := if held then 0 else y.length

/-- What stands between two commas, if one set ends there: the second coordinate of its last point, the
end of the set, and the first coordinate of the next point.  At the end of a message it is empty. -/
structure Link where
  y : List Char
  held : Bool
  times : Option Nat
  x : List Char

namespace Link

def text (l : Link) : List Char := l.y ++ (holdText l.held ++ (timesText l.times ++ l.x))

/-- The link fits the screen and the limits, at the end of a set with so many tokens. -/
structure Fits (g : Geometry) (limits : Limits) (tokens : Nat) (l : Link) : Prop where
  y : IsDigits l.y
  y_le : l.y.length ≤ g.yDigits
  ending : limits.AllowsEnd tokens l.held l.times
  x : ∀ c ∈ l.x, Text.isDigit c = true
  x_le : l.x.length ≤ g.xDigits

def Eager (g : Geometry) (l : Link) : Prop :=
  g.EagerEnd (endDigits l.held l.y) l.x.length l.times

variable {g : Geometry} {limits : Limits} {tokens : Nat} {l : Link}

theorem isDigit_timesText {times : Option Nat} (h : ∀ count ∈ times, limits.AllowsTimes count) :
    ∀ c ∈ timesText times, Text.isDigit c = true := by
  cases times with
  | none => exact nofun
  | some count =>
    intro c hc
    rw [List.mem_singleton.mp hc]
    exact Text.isDigit_digitChar count (h count rfl).lt_ten

/-- `l'` is an eager link with the text of `l`.  It is the same one, or has no repeat digit. -/
structure Rereads (g : Geometry) (limits : Limits) (tokens : Nat) (l l' : Link) : Prop where
  fits : l'.Fits g limits tokens
  held : l'.held = l.held
  text : l'.text = l.text
  eager : l'.Eager g
  x_eq_nil_iff : l'.x = [] ↔ l.x = []
  same : l' = l ∨ l'.times = none

theorem Fits.ending_none (h : l.Fits g limits tokens) : limits.AllowsEnd tokens l.held none :=
  ⟨h.ending.length, h.ending.held, nofun⟩

theorem Fits.isDigit_times (h : l.Fits g limits tokens) :
    ∀ c ∈ timesText l.times, Text.isDigit c = true :=
  isDigit_timesText h.ending.times

/-- Behind a hold marker the repeat digit joins the first coordinate of the next point. -/
theorem exists_rereads_of_held (h : l.Fits g limits tokens) (hheld : l.held = true)
    (heager : ¬ l.Eager g) : ∃ l', Rereads g limits tokens l l' := by
  obtain ⟨y, held, times, x⟩ := l
  obtain rfl : held = true := hheld
  cases times with
  | none => exact absurd (.inl rfl) heager
  | some count =>
    have hshort : x ≠ [] ∧ x.length ≠ g.xDigits := by
      constructor <;> (intro hx; exact heager ⟨.inl rfl, by simp [hx]⟩)
    have hlength : x.length ≤ g.xDigits := h.x_le
    refine ⟨⟨y, true, none, timesText (some count) ++ x⟩,
      ⟨h.y, h.y_le, h.ending_none, fun c hc => ?_, ?_⟩, rfl, rfl, .inl rfl, ?_, .inr rfl⟩
    · exact (List.mem_append.mp hc).elim (h.isDigit_times c) (h.x c)
    · show (timesText (some count) ++ x).length ≤ _
      rw [List.length_append]
      show 1 + x.length ≤ _
      omega
    · simp [timesText, hshort.1]

/-- At the end of a message the repeat digit joins the second coordinate. -/
theorem exists_rereads_of_last (h : l.Fits g limits tokens) (hheld : l.held = false)
    (hlast : l.x = []) (heager : ¬ l.Eager g) : ∃ l', Rereads g limits tokens l l' := by
  obtain ⟨y, held, times, x⟩ := l
  obtain rfl : held = false := hheld
  obtain rfl : x = [] := hlast
  cases times with
  | none => exact absurd (.inr (.inr (Nat.zero_le 1))) heager
  | some count =>
    have hshort : y.length ≠ g.yDigits := fun hy => heager ⟨.inr hy, .inl rfl⟩
    have hlength : y.length ≤ g.yDigits := h.y_le
    refine ⟨⟨y ++ timesText (some count), false, none, []⟩,
      ⟨⟨?_, fun c hc => ?_⟩, ?_, h.ending_none, h.x, h.x_le⟩, rfl, ?_, ?_, Iff.rfl, .inr rfl⟩
    · simp [h.y.ne_nil]
    · exact (List.mem_append.mp hc).elim (h.y.digits c) (h.isDigit_times c)
    · show (y ++ timesText (some count)).length ≤ _
      rw [List.length_append]
      show y.length + 1 ≤ _
      omega
    · simp [text, holdText, timesText]
    · exact .inr (.inr (Nat.zero_le 1))

/-- Digits without a mark between them are shared out anew: the first run gets what it can have. -/
theorem exists_eager_of_digits {digits : List Char} (hdigits : ∀ c ∈ digits, Text.isDigit c = true)
    (hpos : 0 < g.yDigits) (htwo : 2 ≤ digits.length)
    (hlength : digits.length ≤ g.yDigits + g.xDigits) (hxpos : 0 < g.xDigits)
    (hending : limits.AllowsEnd tokens false none) :
    ∃ l' : Link, l'.Fits g limits tokens ∧ l'.held = false ∧ l'.text = digits ∧ l'.Eager g ∧
      l'.x ≠ [] ∧ l'.times = none := by
  obtain ⟨n, hn⟩ : ∃ n, n = min g.yDigits (digits.length - 1) := ⟨_, rfl⟩
  have hy : (digits.take n).length = n := by
    rw [List.length_take]
    omega
  have hx : (digits.drop n).length = digits.length - n := List.length_drop
  have hyne : digits.take n ≠ [] := List.ne_nil_of_length_pos (by omega)
  have hxne : digits.drop n ≠ [] := List.ne_nil_of_length_pos (by omega)
  refine ⟨⟨digits.take n, false, none, digits.drop n⟩, ⟨⟨hyne, ?_⟩, ?_, hending, ?_, ?_⟩, rfl,
    List.take_append_drop n digits, ?_, hxne, rfl⟩
  · exact fun c hc => hdigits c (List.mem_of_mem_take hc)
  · show (digits.take n).length ≤ _
    omega
  · exact fun c hc => hdigits c (List.mem_of_mem_drop hc)
  · show (digits.drop n).length ≤ _
    omega
  · show (digits.take n).length = 0 ∨ (digits.take n).length = g.yDigits ∨
      (digits.drop n).length ≤ 1
    omega

/-- In a row of digits the second coordinate takes what it can have. -/
theorem exists_rereads_of_row (h : l.Fits g limits tokens) (hheld : l.held = false)
    (hrow : l.x ≠ []) (heager : ¬ l.Eager g) : ∃ l', Rereads g limits tokens l l' := by
  have hdigits : ∀ d ∈ l.y ++ (timesText l.times ++ l.x), Text.isDigit d = true := by
    intro d hd
    rcases List.mem_append.mp hd with hd | hd
    · exact h.y.digits d hd
    · exact (List.mem_append.mp hd).elim (h.isDigit_times d) (h.x d)
  have hcount : (l.y ++ (timesText l.times ++ l.x)).length =
      l.y.length + (timesText l.times).length + l.x.length := by
    rw [List.length_append, List.length_append, Nat.add_assoc]
  -- a repeat digit that does not stand apart leaves room for itself
  have hsum : l.y.length + (timesText l.times).length + l.x.length ≤ g.yDigits + g.xDigits := by
    have hy := h.y_le
    have hx := h.x_le
    cases htimes : l.times with
    | none => exact Nat.add_le_add hy hx
    | some count =>
      have hshort : ¬ (l.y.length = g.yDigits ∧ l.x.length = g.xDigits) := fun hfull =>
        heager (by rw [Eager, htimes, endDigits, hheld]; exact ⟨.inr hfull.1, .inr hfull.2⟩)
      show l.y.length + 1 + l.x.length ≤ _
      omega
  have hypos := List.length_pos_iff.mpr h.y.ne_nil
  have hxpos := List.length_pos_iff.mpr hrow
  have hy := h.y_le
  have hx := h.x_le
  obtain ⟨l', hfits, hheld', htext, heager', hne, hrepeats⟩ :=
    exists_eager_of_digits (g := g) hdigits (by omega) (by omega) (by omega) (by omega)
      (hheld ▸ h.ending_none)
  refine ⟨l', hfits, hheld'.trans hheld.symm, ?_, heager', iff_of_false hne hrow, .inr hrepeats⟩
  rw [htext, text, hheld]
  rfl

/-- **Any link has the text of an eager one.** -/
theorem exists_rereads (h : l.Fits g limits tokens) : ∃ l', Rereads g limits tokens l l' := by
  by_cases heager : l.Eager g
  · exact ⟨l, h, rfl, rfl, heager, Iff.rfl, .inl rfl⟩
  cases hheld : l.held with
  | true => exact exists_rereads_of_held h hheld heager
  | false =>
    by_cases hlast : l.x = []
    · exact exists_rereads_of_last h hheld hlast heager
    · exact exists_rereads_of_row h hheld hlast heager

end Link

/-! ## Chains -/

namespace PointChain

/-- Every set of the chain ends as `P` says, of the numbers of digits before and behind its end and of
its repeat digit. -/
def Ends (P : Nat → Nat → Option Nat → Prop) : PointChain → Prop
  | last _ y held times => P (endDigits held y) 0 times
  | plus _ _ later => later.Ends P
  | next _ y held times later => P (endDigits held y) later.x.length times ∧ later.Ends P

variable {g : Geometry} {limits : Limits} {c : PointChain}

theorem ends_withX {P : Nat → Nat → Option Nat → Prop} (x : List Char) (c : PointChain) :
    (c.withX x).Ends P ↔ c.Ends P := by
  cases c <;> rfl

/-- `c'` is an eager chain with the text of `c`, which plays no more than `c`. -/
structure Rereads (g : Geometry) (c c' : PointChain) : Prop where
  eager : c'.Ends g.EagerEnd
  x : c'.x = c.x
  tail : c'.tail = c.tail
  sets : c'.laterSets.length = c.laterSets.length
  plays_le : c'.plays ≤ c.plays
  apart : c'.plays = c.plays → c.Ends g.RepeatsApart

theorem Rereads.text {c' : PointChain} (h : Rereads g c c') : c'.text = c.text := by
  rw [PointChain.text, h.x, h.tail, PointChain.text]

theorem Rereads.length_reading {c' : PointChain} (h : Rereads g c c') :
    c'.reading.length = c.reading.length := by
  rw [reading, reading, List.length_cons, List.length_cons, h.sets]

/-- What happens to the repeat digit of a set if its end is shared out anew. -/
theorem getD_times_le {l l' : Link} {tokens : Nat} (hl : l.Fits g limits tokens)
    (hagain : Link.Rereads g limits tokens l l') :
    l'.times.getD 1 ≤ l.times.getD 1 ∧
      (l'.times.getD 1 = l.times.getD 1 →
        g.RepeatsApart (endDigits l.held l.y) l.x.length l.times) := by
  rcases hagain.same with rfl | hnone
  · refine ⟨le_rfl, fun _ count hcount _ => ?_⟩
    have heager := hagain.eager
    rw [Link.Eager, Option.mem_def.mp hcount] at heager
    exact heager
  · rw [hnone]
    cases htimes : l.times with
    | none => exact ⟨le_rfl, fun _ => nofun⟩
    | some count =>
      have hpos := (hl.ending.times count htimes).2.1
      refine ⟨hpos, ?_⟩
      rintro hone _ ⟨⟩ htwo
      have hone : 1 = count := hone
      omega

/-- **Every chain has the text of an eager one.** -/
theorem exists_rereads (c : PointChain) : ∀ {tokens : Nat}, c.Fits g limits tokens →
    ∃ c' : PointChain, c'.Fits g limits tokens ∧ Rereads g c c' := by
  induction c with
  | last x y held times =>
    intro tokens h
    have hfits : Link.Fits g limits (tokens + 1) ⟨y, held, times, []⟩ :=
      ⟨h.1.y, h.1.y_le, h.2, nofun, Nat.zero_le _⟩
    obtain ⟨l', hl'⟩ := Link.exists_rereads hfits
    obtain ⟨hle, hrepeats⟩ := getD_times_le hfits hl'
    obtain ⟨y', held', times', x'⟩ := l'
    obtain ⟨hl', rfl, htext, heager, hx', -⟩ := hl'
    obtain rfl : x' = [] := hx'.mpr rfl
    refine ⟨last x y' held' times', ⟨⟨h.1.x, hl'.y, h.1.x_le, hl'.y_le⟩, hl'.ending⟩, heager, rfl, ?_,
      rfl, hle, hrepeats⟩
    simpa [tail, Link.text] using htext
  | plus x y later ih =>
    intro tokens h
    obtain ⟨later', hlater', hagain⟩ := ih h.2
    refine ⟨plus x y later', ⟨h.1, hlater'⟩, hagain.eager, rfl, ?_, hagain.sets, hagain.plays_le,
      hagain.apart⟩
    rw [tail, tail, hagain.x, hagain.tail]
  | next x y held times later ih =>
    intro tokens h
    obtain ⟨hpoint, hending, hlater⟩ := h
    obtain ⟨hx, hxLength⟩ := fits_x hlater
    obtain ⟨later', hlater', hagain⟩ := ih hlater
    have hfits : Link.Fits g limits (tokens + 1) ⟨y, held, times, later.x⟩ :=
      ⟨hpoint.y, hpoint.y_le, hending, hx.digits, hxLength⟩
    obtain ⟨l', hl'⟩ := Link.exists_rereads hfits
    obtain ⟨hle, hrepeats⟩ := getD_times_le hfits hl'
    obtain ⟨y', held', times', x'⟩ := l'
    obtain ⟨hl', rfl, htext, heager, hx', -⟩ := hl'
    have hne : x' ≠ [] := fun hnil => hx.ne_nil (hx'.mp hnil)
    refine ⟨next x y' held' times' (later'.withX x'), ⟨⟨hpoint.x, hl'.y, hpoint.x_le, hl'.y_le⟩,
      hl'.ending, fits_withX hlater' ⟨hne, hl'.x⟩ hl'.x_le⟩, ⟨?_, ?_⟩, rfl, ?_, ?_, ?_, ?_⟩
    · rw [x_withX]
      exact heager
    · exact (ends_withX x' later').mpr hagain.eager
    · have hjoin := congrArg (· ++ ',' :: later.tail) htext
      simpa [tail, Link.text, x_withX, tail_withX, hagain.tail] using hjoin
    · rw [laterSets, laterSets, List.length_cons, List.length_cons, laterSets_withX, hagain.sets]
    · rw [plays, plays, plays_withX]
      exact Nat.add_le_add hle hagain.plays_le
    · intro hplays
      rw [plays, plays, plays_withX] at hplays
      have hlater := hagain.plays_le
      have hle : times'.getD 1 ≤ times.getD 1 := hle
      exact ⟨hrepeats (show times'.getD 1 = times.getD 1 by omega), hagain.apart (by omega)⟩

end PointChain

end ChatPad
