import ChatPad.Proofs.Bytes.Fragment
import ChatPad.Proofs.Text.Slice

/-!
# Early and late removal of duplicates

`Bytes.endsAt` leaves out an end that it has met before, but not everywhere: it does so for the head of
a row, and once more for the whole token, and not inside an optional part or behind the head.
`Fragment.attempts` is the search that never leaves out anything: it follows a row again for each way
through its head, whatever place that leads to.

* `Fragment.eraseDups_attempts`: the ends are the first occurrences among the attempts, so neither what
  is left out early nor what is left in changes the ends or their order;
* `Bytes.endsAt_spec`: by offset, the ends are met once each, they are the ends of the tokens that begin
  there, and they stand in the order of the attempts.
-/

namespace ChatPad

/-- First occurrences are met once. -/
theorem nodup_eraseDups {α : Type} [BEq α] [LawfulBEq α] (l : List α) : l.eraseDups.Nodup := by
  induction l with
  | nil => exact List.nodup_nil
  | cons a l ih =>
    rw [eraseDups_cons_eq]
    refine List.nodup_cons.mpr ⟨fun ha => ?_, ih.filter _⟩
    simpa using (List.mem_filter.mp ha).2

namespace Fragment

/-! ## All attempts -/

mutual

/-- Every end that a backtracking search meets, as often as it meets it: the longest run of digits
first, an optional part before its absence, and what follows the first way through a part before what
follows the next. -/
def attempts : Fragment → List Char → List Nat
  | .literal name, text => if beginsWith name.toList text then [name.toList.length] else []
  | .digits min max, text =>
    (List.range' min (max + 1 - min)).reverse.filter fun count =>
      count ≤ text.length && (text.take count).all Text.isDigit
  | .digitRange low high, text =>
    charEnds (fun c => Text.isDigit c && low ≤ Text.digitValue c && Text.digitValue c ≤ high) text
  | .char c, text => charEnds (· == c) text
  | .seq parts, text => rowAttempts parts text
  | .optional inner, text => attempts inner text ++ [0]

/-- Every end of a row of fragments that a backtracking search meets, as often as it meets it. -/
def rowAttempts : List Fragment → List Char → List Nat
  | [], _ => [0]
  | part :: later, text =>
    (attempts part text).flatMap fun n => (rowAttempts later (text.drop n)).map (n + ·)

end

/-- The first of some ascending numbers are those up to a bound. -/
theorem filter_le_range' (low count bound : Nat) (h : bound + 1 - low ≤ count) :
    (List.range' low count).filter (· ≤ bound) = List.range' low (bound + 1 - low) := by
  obtain ⟨later, rfl⟩ := Nat.exists_eq_add_of_le h
  rw [← List.range'_append_1, List.filter_append, List.filter_eq_self.mpr, List.filter_eq_nil_iff.mpr,
    List.append_nil]
  · intro n hn
    have := List.mem_range'_1.mp hn
    simp only [decide_eq_true_eq]
    omega
  · intro n hn
    have := List.mem_range'_1.mp hn
    exact decide_eq_true (by omega)

/-- Runs are tried from the longest that is allowed down; all that are longer than the digits that stand
there fail. -/
theorem attempts_digits (min max : Nat) (text : List Char) :
    attempts (.digits min max) text = digitEnds min max text := by
  rw [attempts, digitEnds, List.filter_reverse]
  congr 1
  have hmax : ((text.take max).takeWhile Text.isDigit).length ≤ max :=
    Nat.le_trans (List.takeWhile_sublist _).length_le (List.length_take_le _ _)
  rw [← filter_le_range' min (max + 1 - min) ((text.take max).takeWhile Text.isDigit).length (by omega)]
  refine List.filter_congr fun n hn => ?_
  have hn : n ≤ max := by
    have := List.mem_range'_1.mp hn
    omega
  rw [Bool.eq_iff_iff, decide_eq_true_iff, le_length_takeWhile_iff, List.length_take, List.take_take,
    Nat.min_eq_left hn, Nat.le_min, Bool.and_eq_true, decide_eq_true_iff, List.all_eq_true]
  exact and_congr_left fun _ => (and_iff_right hn).symm

/-- A row that begins again for each way through its head reaches the same ends, in the same order. -/
theorem eraseDups_rowAttempts {parts : List Fragment}
    (hparts : ∀ part ∈ parts, ∀ text, (part.attempts text).eraseDups = part.ends text)
    (text : List Char) : (rowAttempts parts text).eraseDups = (rowWays parts text).eraseDups := by
  induction parts generalizing text with
  | nil => rfl
  | cons part later ih =>
    obtain ⟨hpart, hlater⟩ := List.forall_mem_cons.mp hparts
    rw [rowAttempts, rowWays, ← eraseDups_flatMap_eraseDups, hpart, eraseDups_ways]
    refine eraseDups_flatMap_congr fun n _ => ?_
    rw [eraseDups_map_add, eraseDups_map_add, ih hlater]

/-- **The ends are the first occurrences among all attempts.** -/
theorem eraseDups_attempts (f : Fragment) (text : List Char) :
    (f.attempts text).eraseDups = f.ends text := by
  induction f using Fragment.induction generalizing text with
  | literal name => exact eraseDups_ways (.literal name) text
  | digits min max =>
    rw [attempts_digits]
    exact eraseDups_ways (.digits min max) text
  | digitRange low high => exact eraseDups_ways (.digitRange low high) text
  | char c => exact eraseDups_ways (.char c) text
  | seq parts ih =>
    rw [attempts, eraseDups_rowAttempts ih]
    exact eraseDups_ways (.seq parts) text
  | optional inner ih => rw [attempts, ends, ← eraseDups_eraseDups_append, ih]

/-- An optional part within an optional part can be absent in two ways, and what follows it is met once
for each of them. -/
example :
    let f := Fragment.seq [.optional (.optional (.char 'a')), .optional (.char 'b')]
    f.attempts ['a', 'b'] = [2, 1, 0, 0] ∧ f.ends ['a', 'b'] = [2, 1, 0] := by decide

theorem ends_nodup (f : Fragment) (text : List Char) : (f.ends text).Nodup := by
  rw [← eraseDups_attempts]
  exact nodup_eraseDups _

theorem le_length_of_mem_ends {f : Fragment} {text : List Char} {n : Nat} (h : n ∈ f.ends text) :
    n ≤ text.length :=
  ((mem_ends_iff f text n).mp h).1

theorem le_length_of_mem_attempts {f : Fragment} {text : List Char} {n : Nat}
    (h : n ∈ f.attempts text) : n ≤ text.length := by
  rw [← List.mem_eraseDups, eraseDups_attempts] at h
  exact le_length_of_mem_ends h

end Fragment

namespace Bytes

/-! ## By offset -/

variable {before rest : List Char}

/-- A slice that begins between two characters is a front of what stands behind them. -/
theorem slice?_append_eq_some_iff {word : List Char} {stop : Nat} :
    Text.slice? (before ++ rest) (Text.byteLength before) stop = some word ↔
      ∃ n ≤ rest.length, word = rest.take n ∧ placeAfter before rest n = stop := by
  rw [Text.slice?_eq_some_iff]
  constructor
  · rintro ⟨front, later, htext, hfront, rfl⟩
    obtain ⟨-, rfl⟩ := Text.append_inj_of_byteLength_eq htext hfront.symm
    refine ⟨word.length, ?_, List.take_left.symm, ?_⟩
    · rw [List.length_append]
      exact Nat.le_add_right _ _
    · rw [placeAfter_eq, List.take_left]
  · rintro ⟨n, -, rfl, rfl⟩
    refine ⟨before, rest.drop n, ?_, rfl, (placeAfter_eq before rest n).symm⟩
    rw [List.take_append_drop]

/-- The offsets of the ends are those where a slice that is a token ends. -/
theorem mem_map_placeAfter_ends_iff (f : Fragment) (stop : Nat) :
    stop ∈ (f.ends rest).map (placeAfter before rest) ↔
      ∃ word, Text.slice? (before ++ rest) (Text.byteLength before) stop = some word ∧
        f.Matches word := by
  simp only [slice?_append_eq_some_iff, List.mem_map, Fragment.mem_ends_iff]
  constructor
  · rintro ⟨n, ⟨hlength, hmatches⟩, hstop⟩
    exact ⟨rest.take n, ⟨n, hlength, rfl, hstop⟩, hmatches⟩
  · rintro ⟨_, ⟨n, hlength, rfl, hstop⟩, hmatches⟩
    exact ⟨n, ⟨hlength, hmatches⟩, hstop⟩

theorem nodup_map_placeAfter_ends (f : Fragment) (before rest : List Char) :
    ((f.ends rest).map (placeAfter before rest)).Nodup := by
  refine (Fragment.ends_nodup f rest).map_on fun n hn m hm => ?_
  exact placeAfter_inj (Fragment.le_length_of_mem_ends hn) (Fragment.le_length_of_mem_ends hm)

/-- **What the ends of a token are.**  Whatever the fragment, in every text and from every offset
between characters on, the search for the ends comes to an answer; no end is in it twice, it has just
the offsets where the slice from there on is a token, and its order is that in which a search that
leaves out nothing first meets them. -/
theorem endsAt_spec (f : Fragment) (before rest : List Char) :
    ∃ ends, endsAt f (before ++ rest) (Text.byteLength before) = .ok ends ∧
      ends.Nodup ∧
      (∀ stop, stop ∈ ends ↔
        ∃ word, Text.slice? (before ++ rest) (Text.byteLength before) stop = some word ∧
          f.Matches word) ∧
      ends = ((f.attempts rest).map (placeAfter before rest)).eraseDups := by
  refine ⟨_, endsAt_append f before rest, nodup_map_placeAfter_ends f before rest,
    mem_map_placeAfter_ends_iff f, ?_⟩
  have hplaces : ((f.attempts rest).map (placeAfter before rest)).eraseDups =
      (f.attempts rest).eraseDups.map (placeAfter before rest) :=
    eraseDups_map fun n hn m hm => placeAfter_inj (Fragment.le_length_of_mem_attempts hn)
      (Fragment.le_length_of_mem_attempts hm)
  rw [hplaces, Fragment.eraseDups_attempts]

end Bytes

end ChatPad
