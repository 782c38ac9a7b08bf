import ChatPad.Proofs.Fragment.Language
import Mathlib.Data.List.Nodup

/-!
# Ends, depth first

`Fragment.ends` follows a row of fragments from all places at once that it can have reached.  A
backtracking matcher goes depth first: it follows the row from the first place to its end, and then
from the next place.  That reaches the same ends, some of them more than once, and their first
occurrences are in the same order: `Fragment.eraseDups_ways`.

The rest of this module is about first occurrences.  What counts is that a place that was met before
can be left out without changing the order of the first occurrences behind it
(`eraseDups_flatMap_eraseDups`).
-/

namespace ChatPad

/-! ## First occurrences -/

section FirstOccurrences

variable {α β : Type} [BEq α] [LawfulBEq α]

/-- First occurrences can be looked for among some of the entries only. -/
theorem eraseDups_filter (p : α → Bool) : ∀ l : List α,
    (l.filter p).eraseDups = l.eraseDups.filter p
  | [] => rfl
  | a :: l => by
    have hshorter : (l.filter fun b => !b == a).length < l.length + 1 :=
      Nat.lt_succ_of_le (List.length_filter_le _ _)
    rw [List.eraseDups_cons, List.filter_cons, List.filter_cons, ← eraseDups_filter p (l.filter _),
      List.filter_filter]
    cases ha : p a with
    | true =>
      rw [if_pos rfl, if_pos rfl, List.eraseDups_cons, List.filter_filter]
      simp only [Bool.and_comm]
    | false =>
      rw [if_neg Bool.false_ne_true, if_neg Bool.false_ne_true]
      congr 1
      refine List.filter_congr fun b _ => ?_
      cases hb : p b with
      | false => rfl
      | true =>
        have hne : ¬ b = a := by
          rintro rfl
          rw [ha] at hb
          cases hb
        simp [hne]
termination_by l => l.length

theorem eraseDups_cons_eq (a : α) (l : List α) :
    (a :: l).eraseDups = a :: l.eraseDups.filter fun b => !b == a := by
  rw [List.eraseDups_cons, eraseDups_filter]

theorem eraseDups_eraseDups (l : List α) : l.eraseDups.eraseDups = l.eraseDups := by
  induction l with
  | nil => rfl
  | cons a l ih =>
    rw [eraseDups_cons_eq, eraseDups_cons_eq, eraseDups_filter, ih, List.filter_filter]
    simp only [Bool.and_self]

theorem eraseDups_of_nodup {l : List α} (h : l.Nodup) : l.eraseDups = l := by
  induction l with
  | nil => rfl
  | cons a l ih =>
    obtain ⟨ha, hl⟩ := List.nodup_cons.mp h
    have hfilter : l.filter (fun b => !b == a) = l := by
      refine List.filter_eq_self.mpr fun b hb => ?_
      simpa using fun heq : b = a => ha (heq ▸ hb)
    rw [List.eraseDups_cons, hfilter, ih hl]

theorem eraseDups_append_eq (l l' : List α) :
    (l ++ l').eraseDups = l.eraseDups ++ l'.eraseDups.filter fun a => !l.elem a := by
  rw [List.eraseDups_append, List.removeAll, eraseDups_filter]

theorem eraseDups_eraseDups_append (l l' : List α) :
    (l.eraseDups ++ l').eraseDups = (l ++ l').eraseDups := by
  have hmem (a : α) : l.eraseDups.elem a = l.elem a := by
    rw [Bool.eq_iff_iff, List.elem_iff, List.elem_iff, List.mem_eraseDups]
  rw [eraseDups_append_eq, eraseDups_append_eq, eraseDups_eraseDups]
  simp only [hmem]

/-- Lists with the same first occurrences can stand for each other. -/
theorem eraseDups_flatMap_congr {f g : β → List α} {l : List β}
    (h : ∀ b ∈ l, (f b).eraseDups = (g b).eraseDups) :
    (l.flatMap f).eraseDups = (l.flatMap g).eraseDups := by
  induction l with
  | nil => rfl
  | cons b l ih =>
    obtain ⟨hb, hl⟩ := List.forall_mem_cons.mp h
    have hmem (a : α) : (f b).elem a = (g b).elem a := by
      rw [Bool.eq_iff_iff, List.elem_iff, List.elem_iff, ← List.mem_eraseDups, hb,
        List.mem_eraseDups]
    rw [List.flatMap_cons, List.flatMap_cons, eraseDups_append_eq, eraseDups_append_eq, hb, ih hl]
    simp only [hmem]

variable [BEq β] [LawfulBEq β]

/-- **An entry that was met before adds nothing.** -/
theorem eraseDups_flatMap_eraseDups (f : β → List α) (l : List β) :
    (l.eraseDups.flatMap f).eraseDups = (l.flatMap f).eraseDups := by
  induction l with
  | nil => rfl
  | cons b l ih =>
    -- whatever `b` leads to is left out behind it, so `b` can be left out as well
    have hleave (l : List β) : ((l.filter fun b' => !b' == b).flatMap f).filter
        (fun a => !(f b).elem a) = (l.flatMap f).filter fun a => !(f b).elem a := by
      induction l with
      | nil => rfl
      | cons b' l ih =>
        rw [List.flatMap_cons, List.filter_append, ← ih, List.filter_cons]
        by_cases hb : b' = b
        · subst hb
          simp
        · simp [hb]
    rw [eraseDups_cons_eq, List.flatMap_cons, List.flatMap_cons, eraseDups_append_eq,
      eraseDups_append_eq, ← eraseDups_filter, hleave, eraseDups_filter, ih]

/-- Entries that are told apart have their first occurrences at the same places. -/
theorem eraseDups_map {f : α → β} {l : List α} (hf : ∀ a ∈ l, ∀ b ∈ l, f a = f b → a = b) :
    (l.map f).eraseDups = l.eraseDups.map f := by
  induction l with
  | nil => rfl
  | cons a l ih =>
    have hl : ∀ b ∈ l, ∀ c ∈ l, f b = f c → b = c := fun b hb c hc =>
      hf b (List.mem_cons_of_mem a hb) c (List.mem_cons_of_mem a hc)
    rw [List.map_cons, eraseDups_cons_eq, eraseDups_cons_eq, List.map_cons, ih hl, List.filter_map]
    congr 2
    refine List.filter_congr fun b hb => ?_
    have hb' : b ∈ l := List.mem_eraseDups.mp hb
    by_cases hba : b = a
    · subst hba
      simp
    · have hne : f b ≠ f a := fun h =>
        hba (hf b (List.mem_cons_of_mem a hb') a List.mem_cons_self h)
      rw [Function.comp_apply, beq_false_of_ne hne, beq_false_of_ne hba]

end FirstOccurrences

namespace Fragment

/-! ## Depth first -/

mutual

/-- Every end of a token of this shape, once for each way that leads to it, in the order of a
depth-first search. -/
def ways : Fragment → List Char → List Nat
  | .literal name, text => if beginsWith name.toList text then [name.toList.length] else []
  | .digits min max, text => digitEnds min max text
  | .digitRange low high, text =>
    charEnds (fun c => Text.isDigit c && low ≤ Text.digitValue c && Text.digitValue c ≤ high) text
  | .char c, text => charEnds (· == c) text
  | .seq parts, text => rowWays parts text
  | .optional inner, text => ways inner text ++ [0]

/-- Every end of a row of fragments, once for each way that leads to it; of the ways through a single
part that lead to one place, only the first is followed. -/
def rowWays : List Fragment → List Char → List Nat
  | [], _ => [0]
  | part :: later, text =>
    (ways part text).eraseDups.flatMap fun n => (rowWays later (text.drop n)).map (n + ·)

end

/-! ## The ends are the first occurrences -/

/-- The ends of a run are tried from the longest down. -/
theorem digitEnds_pairwise (min max : Nat) (text : List Char) :
    (digitEnds min max text).Pairwise (· > ·) := by
  rw [digitEnds, List.pairwise_reverse]
  exact List.pairwise_lt_range' 1

theorem digitEnds_nodup (min max : Nat) (text : List Char) : (digitEnds min max text).Nodup :=
  (digitEnds_pairwise min max text).imp fun h => Nat.ne_of_gt h

theorem eraseDups_charEnds (test : Char → Bool) (text : List Char) :
    (charEnds test text).eraseDups = charEnds test text := by
  cases text with
  | nil => rfl
  | cons c rest =>
    rw [charEnds]
    cases test c <;> rfl

theorem eraseDups_map_add (n : Nat) (l : List Nat) :
    (l.map (n + ·)).eraseDups = l.eraseDups.map (n + ·) :=
  eraseDups_map fun _ _ _ _ h => Nat.add_left_cancel h

/-- One part, and what follows from the places that it can end at. -/
theorem eraseDups_rowEnds_cons (part : Fragment) (later : List Fragment) (reached : List Nat)
    (text : List Char)
    (hlater : ∀ reached text, (rowEnds later reached text).eraseDups =
      (reached.flatMap fun n => (rowEnds later [0] (text.drop n)).map (n + ·)).eraseDups) :
    (rowEnds (part :: later) reached text).eraseDups =
      (reached.flatMap fun n => (part.ends (text.drop n)).flatMap fun m =>
        (rowEnds later [0] (text.drop (n + m))).map (n + m + ·)).eraseDups := by
  rw [rowEnds, hlater, eraseDups_flatMap_eraseDups, List.flatMap_assoc]
  simp only [List.flatMap_map]

/-- **A row goes on from each place on its own.** -/
theorem eraseDups_rowEnds (parts : List Fragment) : ∀ (reached : List Nat) (text : List Char),
    (rowEnds parts reached text).eraseDups =
      (reached.flatMap fun n => (rowEnds parts [0] (text.drop n)).map (n + ·)).eraseDups := by
  induction parts with
  | nil =>
    intro reached text
    simp [rowEnds]
  | cons part later ih =>
    intro reached text
    rw [eraseDups_rowEnds_cons part later reached text ih]
    refine eraseDups_flatMap_congr fun n _ => ?_
    rw [eraseDups_map_add, eraseDups_rowEnds_cons part later [0] _ ih, ← eraseDups_map_add,
      List.flatMap_singleton, List.map_flatMap]
    simp only [List.map_map, List.drop_drop, Nat.zero_add, Function.comp_def, Nat.add_assoc,
      Nat.add_zero]

/-- A row has each end once, if it begins at one place. -/
theorem eraseDups_rowEnds_self (parts : List Fragment) : ∀ (reached : List Nat) (text : List Char),
    reached.eraseDups = reached → (rowEnds parts reached text).eraseDups = rowEnds parts reached text := by
  induction parts with
  | nil => exact fun _ _ h => h
  | cons part later ih => exact fun reached text _ => ih _ text (eraseDups_eraseDups _)

theorem eraseDups_rowWays {parts : List Fragment}
    (hparts : ∀ part ∈ parts, ∀ text, (part.ways text).eraseDups = part.ends text)
    (text : List Char) : (rowWays parts text).eraseDups = rowEnds parts [0] text := by
  rw [← eraseDups_rowEnds_self parts [0] text rfl]
  induction parts generalizing text with
  | nil => rfl
  | cons part later ih =>
    obtain ⟨hpart, hlater⟩ := List.forall_mem_cons.mp hparts
    rw [rowWays, hpart, eraseDups_rowEnds_cons part later [0] text (eraseDups_rowEnds later),
      List.flatMap_singleton]
    refine eraseDups_flatMap_congr fun n _ => ?_
    rw [eraseDups_map_add, ih hlater, ← eraseDups_map_add, Nat.zero_add]

/-- **The ends are the first occurrences** among the ends that a depth-first search meets. -/
theorem eraseDups_ways (f : Fragment) (text : List Char) : (f.ways text).eraseDups = f.ends text := by
  induction f using Fragment.induction generalizing text with
  | literal name =>
    rw [ways, ends]
    split <;> rfl
  | digits min max => exact eraseDups_of_nodup (digitEnds_nodup min max text)
  | digitRange low high => exact eraseDups_charEnds _ text
  | char c => exact eraseDups_charEnds _ text
  | seq parts ih => rw [ways, ends, eraseDups_rowWays ih]
  | optional inner ih => rw [ways, ends, ← eraseDups_eraseDups_append, ih]

end Fragment

end ChatPad
