import ChatPad.Proofs.Bytes.Access
import ChatPad.Proofs.Fragment.DepthFirst

/-!
# Fragments by byte offset

`Bytes.endsAt` looks for the ends of a token as a program does that keeps its place as a byte offset
and goes depth first.  Every access that it makes can fail.

* `Bytes.collect_append`: from an offset between characters on, no access fails, and each way that is
  found is one of `Fragment.ways`;
* `Bytes.endsAt_append`: the ends are those of `Fragment.ends`, as offsets.

The places that are reached lie between characters again, although a name and the text that matches it
can differ in length; that is what carries the induction along a row.
-/

namespace ChatPad.Bytes

/-- Where a name ends at the front of a text that stands at an offset, whatever its case. -/
def literalEnd? : List Char → List Char → Nat → Option Nat
  | [], _, offset => some offset
  | _ :: _, [], _ => none
  | expected :: later, actual :: rest, offset =>
    if Text.sameLetter actual expected then literalEnd? later rest (offset + actual.utf8Size)
    else none

mutual

/-- Every offset where a token of this shape can end that begins at an offset, once for each way. -/
def collect : Fragment → List Char → Nat → Except Fault (List Nat)
  | .literal name, text, offset => do
    let rest ← textFrom text offset
    .ok (literalEnd? name.toList rest offset).toList
  | .digits min max, text, offset => do
    let bytes ← bytesFrom text offset
    let available := ((bytes.take max).takeWhile isDigit).length
    .ok ((List.range' min (available + 1 - min)).reverse.map (offset + ·))
  | .digitRange low high, text, offset =>
    match byteAt? text offset with
    | none => .ok []
    | some byte =>
      if isDigit byte then do
        let value ← digitOf byte
        .ok (if low ≤ value ∧ value ≤ high then [offset + 1] else [])
      else .ok []
  | .char c, text, offset => do
    let rest ← textFrom text offset
    .ok (if rest.head? = some c then [offset + c.utf8Size] else [])
  | .seq parts, text, offset => collectRow parts text offset
  | .optional inner, text, offset => do
    let found ← collect inner text offset
    .ok (found ++ [offset])

/-- Every offset where a row of fragments can end that begins at an offset, once for each way. -/
def collectRow : List Fragment → List Char → Nat → Except Fault (List Nat)
  | [], _, offset => .ok [offset]
  | part :: later, text, offset => do
    let ends ← collect part text offset
    let found ← ends.eraseDups.mapM (collectRow later text)
    .ok found.flatten

end

/-- Every offset where a token of this shape can end that begins at an offset, in order of
preference, each once. -/
def endsAt (f : Fragment) (text : List Char) (offset : Nat) : Except Fault (List Nat) := do
  let found ← collect f text offset
  .ok found.eraseDups

/-! ## Places -/

/-- The offset after some characters of a text, behind what stands before it. -/
def placeAfter (before rest : List Char) (count : Nat) : Nat :=
  Text.byteLength (before ++ rest.take count)

theorem placeAfter_eq (before rest : List Char) (count : Nat) :
    placeAfter before rest count = Text.byteLength before + Text.byteLength (rest.take count) :=
  Text.byteLength_append _ _

theorem placeAfter_placeAfter (before rest : List Char) (n m : Nat) :
    placeAfter (before ++ rest.take n) (rest.drop n) m = placeAfter before rest (n + m) := by
  rw [placeAfter, placeAfter, List.append_assoc, List.take_add]

/-- Different places of a text have different offsets. -/
theorem placeAfter_inj {before rest : List Char} {n m : Nat} (hn : n ≤ rest.length)
    (hm : m ≤ rest.length) (h : placeAfter before rest n = placeAfter before rest m) : n = m := by
  rw [placeAfter_eq, placeAfter_eq, Nat.add_left_cancel_iff] at h
  have hcut : rest.take n ++ rest.drop n = rest.take m ++ rest.drop m := by
    rw [List.take_append_drop, List.take_append_drop]
  have htake := (Text.append_inj_of_byteLength_eq hcut h).1
  rw [← List.length_take_of_le hn, htake, List.length_take_of_le hm]

/-! ## Single parts -/

variable {before rest : List Char}

theorem literalEnd?_eq (name rest : List Char) (offset : Nat) : literalEnd? name rest offset =
    if Fragment.beginsWith name rest then
      some (offset + Text.byteLength (rest.take name.length)) else none := by
  induction name generalizing rest offset with
  | nil =>
    rw [Fragment.beginsWith, if_pos rfl]
    cases rest <;> rfl
  | cons expected later ih =>
    cases rest with
    | nil => rfl
    | cons actual rest =>
      rw [literalEnd?, Fragment.beginsWith]
      cases Text.sameLetter actual expected with
      | false => rfl
      | true =>
        rw [if_pos rfl, ih, Bool.true_and, List.length_cons, List.take_succ_cons, Text.byteLength,
          Nat.add_assoc]

theorem collect_literal (name : String) : collect (.literal name) (before ++ rest)
    (Text.byteLength before) =
      .ok (((Fragment.literal name).ways rest).map (placeAfter before rest)) := by
  rw [collect, textFrom_append]
  show Except.ok _ = _
  rw [literalEnd?_eq, Fragment.ways, ← placeAfter_eq]
  split <;> rfl

theorem collect_digits (min max : Nat) : collect (.digits min max) (before ++ rest)
    (Text.byteLength before) =
      .ok (((Fragment.digits min max).ways rest).map (placeAfter before rest)) := by
  rw [collect, bytesFrom_append]
  show Except.ok _ = _
  rw [length_takeWhile_ofText, Fragment.ways, Fragment.digitEnds]
  congr 1
  refine List.map_congr_left fun n hn => ?_
  have hle : n ≤ ((rest.take max).takeWhile Text.isDigit).length := by
    have := List.mem_range'_1.mp (List.mem_reverse.mp hn)
    omega
  obtain ⟨hlength, hdigits⟩ := (Fragment.le_length_takeWhile_iff _ _ _).mp hle
  have hmax : n ≤ max ∧ n ≤ rest.length := Nat.le_min.mp (List.length_take ▸ hlength)
  rw [List.take_take, Nat.min_eq_left hmax.1] at hdigits
  rw [placeAfter_eq, byteLength_of_digits hdigits, List.length_take_of_le hmax.2]

theorem collect_digitRange (low high : Nat) : collect (.digitRange low high) (before ++ rest)
    (Text.byteLength before) =
      .ok (((Fragment.digitRange low high).ways rest).map (placeAfter before rest)) := by
  rw [collect, byteAt?_append, Fragment.ways]
  cases hbyte : (ofText rest).head? with
  | none =>
    obtain rfl := eq_nil_of_head?_ofText hbyte
    rfl
  | some byte =>
    obtain ⟨c, rest, rfl, hdigit, hvalue⟩ := head?_ofText rest byte hbyte
    rw [Fragment.charEnds]
    cases hc : Text.isDigit c with
    | false =>
      rw [hc] at hdigit
      simp [hdigit]
    | true =>
      have hplace : placeAfter before (c :: rest) 1 = Text.byteLength before + 1 := by
        rw [placeAfter_eq]
        exact congrArg (_ + ·) (utf8Size_of_isDigit hc)
      have hdigitValue : Text.digitValue c = byte.toNat - 48 := by
        rw [hvalue hc]
        rfl
      rw [hc] at hdigit
      simp only [hdigit, if_true, digitOf_eq_ok hdigit, hdigitValue, Bool.true_and,
        Bool.and_eq_true, decide_eq_true_eq]
      show Except.ok _ = _
      split
      · rw [List.map_singleton, hplace]
      · rfl

theorem collect_char (c : Char) : collect (.char c) (before ++ rest) (Text.byteLength before) =
    .ok (((Fragment.char c).ways rest).map (placeAfter before rest)) := by
  rw [collect, textFrom_append, Fragment.ways]
  show Except.ok _ = _
  cases rest with
  | nil => rfl
  | cons first rest =>
    rw [Fragment.charEnds, List.head?_cons]
    by_cases hc : first = c
    · subst hc
      rw [if_pos rfl, if_pos (beq_self_eq_true first), List.map_singleton, placeAfter_eq]
      rfl
    · rw [if_neg (by simpa using hc), if_neg (by simpa using hc)]
      rfl

/-! ## Rows -/

theorem le_length_of_mem_ways {f : Fragment} {n : Nat} (h : n ∈ f.ways rest) : n ≤ rest.length := by
  rw [← List.mem_eraseDups, Fragment.eraseDups_ways] at h
  exact ((Fragment.mem_ends_iff f rest n).mp h).1

/-- Leaving out offsets that were met before is leaving out places that were. -/
theorem eraseDups_map_placeAfter (f : Fragment) (before rest : List Char) :
    ((f.ways rest).map (placeAfter before rest)).eraseDups =
      (f.ends rest).map (placeAfter before rest) := by
  rw [← Fragment.eraseDups_ways]
  exact eraseDups_map fun n hn m hm =>
    placeAfter_inj (le_length_of_mem_ways hn) (le_length_of_mem_ways hm)

theorem collectRow_append {parts : List Fragment}
    (hparts : ∀ part ∈ parts, ∀ before rest, collect part (before ++ rest) (Text.byteLength before) =
      .ok ((part.ways rest).map (placeAfter before rest))) (before rest : List Char) :
    collectRow parts (before ++ rest) (Text.byteLength before) =
      .ok ((Fragment.rowWays parts rest).map (placeAfter before rest)) := by
  induction parts generalizing before rest with
  | nil =>
    rw [collectRow, Fragment.rowWays, List.map_singleton, placeAfter, List.take_zero,
      List.append_nil]
  | cons part later ih =>
    obtain ⟨hpart, hlater⟩ := List.forall_mem_cons.mp hparts
    have hgoes (n : Nat) : collectRow later (before ++ rest) (placeAfter before rest n) =
        .ok (((Fragment.rowWays later (rest.drop n)).map (n + ·)).map (placeAfter before rest)) := by
      have htext : before ++ rest = before ++ rest.take n ++ rest.drop n := by
        rw [List.append_assoc, List.take_append_drop]
      rw [htext, placeAfter, ih hlater, List.map_map]
      exact congrArg (fun f => Except.ok (List.map f _)) (funext (placeAfter_placeAfter before rest n))
    rw [collectRow, hpart]
    have hfound : (part.ends rest).mapM
        (collectRow later (before ++ rest) ∘ placeAfter before rest) = .ok _ :=
      mapM_eq_ok fun n _ => hgoes n
    show ((part.ways rest).map (placeAfter before rest)).eraseDups.mapM
      (collectRow later (before ++ rest)) >>= (fun found => .ok found.flatten) = _
    rw [eraseDups_map_placeAfter, List.mapM_map, hfound, Fragment.rowWays, Fragment.eraseDups_ways,
      List.map_flatMap, List.flatMap_def]
    rfl

/-- **From between two characters on, no access fails**, and the ways that are found are those that a
depth-first search through the characters finds. -/
theorem collect_append (f : Fragment) : ∀ before rest : List Char,
    collect f (before ++ rest) (Text.byteLength before) =
      .ok ((f.ways rest).map (placeAfter before rest)) := by
  induction f using Fragment.induction with
  | literal name => exact fun _ _ => collect_literal name
  | digits min max => exact fun _ _ => collect_digits min max
  | digitRange low high => exact fun _ _ => collect_digitRange low high
  | char c => exact fun _ _ => collect_char c
  | seq parts ih => exact collectRow_append ih
  | optional inner ih =>
    intro before rest
    rw [collect, ih, Fragment.ways, List.map_append]
    show Except.ok _ = _
    rw [List.map_singleton, placeAfter_eq before rest 0]
    rfl

/-- **The ends of a token** from between two characters on are those of the fragment. -/
theorem endsAt_append (f : Fragment) (before rest : List Char) :
    endsAt f (before ++ rest) (Text.byteLength before) =
      .ok ((f.ends rest).map (placeAfter before rest)) := by
  rw [endsAt, collect_append]
  exact congrArg Except.ok (eraseDups_map_placeAfter f before rest)

end ChatPad.Bytes
