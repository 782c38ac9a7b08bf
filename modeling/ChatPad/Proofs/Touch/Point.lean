import ChatPad.Proofs.Fragment.DepthFirst
import ChatPad.Touch.Definition

/-!
# Points as they are typed

A point is two runs of digits with a comma between them.  Its definition reads it as such
(`readPoint_eq_some_iff`), and its fragment also bounds the lengths of the runs
(`Geometry.pointFragment_matches_iff`).  In front of a text the first run is told by the comma, and the
second one can end wherever there is a digit before, which is tried from the longest run down
(`Geometry.ends_pointFragment`).
-/

namespace ChatPad

/-! ## Runs of digits -/

/-- The text is a run of digits, at least one. -/
structure IsDigits (text : List Char) : Prop where
  ne_nil : text ≠ []
  digits : ∀ c ∈ text, Text.isDigit c = true

theorem isDigits_iff {text : List Char} :
    IsDigits text ↔ text ≠ [] ∧ text.all Text.isDigit = true := by
  rw [List.all_eq_true]
  exact ⟨fun h => ⟨h.ne_nil, h.digits⟩, fun h => ⟨h.1, h.2⟩⟩

instance : DecidablePred IsDigits := fun _ => decidable_of_iff _ isDigits_iff.symm

/-- The text does not go on with a digit. -/
def Undigited (text : List Char) : Prop := ∀ c ∈ text.head?, Text.isDigit c = false

theorem undigited_nil : Undigited [] := nofun

theorem undigited_cons {c : Char} (h : Text.isDigit c = false) (rest : List Char) :
    Undigited (c :: rest) := by
  rintro d ⟨⟩
  exact h

theorem undigited_comma (rest : List Char) : Undigited (',' :: rest) :=
  undigited_cons (by decide) rest

theorem takeWhile_isDigit {digits rest : List Char} (hdigits : ∀ c ∈ digits, Text.isDigit c = true)
    (hrest : Undigited rest) : (digits ++ rest).takeWhile Text.isDigit = digits := by
  rw [List.takeWhile_append_of_pos hdigits]
  cases rest with
  | nil => rw [List.takeWhile_nil, List.append_nil]
  | cons c rest =>
    have hc : ¬ Text.isDigit c = true := by simp [hrest c rfl]
    rw [List.takeWhile_cons_of_neg hc, List.append_nil]

theorem dropWhile_isDigit {digits rest : List Char} (hdigits : ∀ c ∈ digits, Text.isDigit c = true)
    (hrest : Undigited rest) : (digits ++ rest).dropWhile Text.isDigit = rest := by
  rw [List.dropWhile_append_of_pos hdigits]
  cases rest with
  | nil => rfl
  | cons c rest =>
    have hc : ¬ Text.isDigit c = true := by simp [hrest c rfl]
    rw [List.dropWhile_cons_of_neg hc]

/-- A run of digits that does not go on is told by the text. -/
theorem digits_append_inj {xs ys rest rest' : List Char} (hx : ∀ c ∈ xs, Text.isDigit c = true)
    (hy : ∀ c ∈ ys, Text.isDigit c = true) (hrest : Undigited rest) (hrest' : Undigited rest')
    (h : xs ++ rest = ys ++ rest') : xs = ys ∧ rest = rest' := by
  have htake := congrArg (List.takeWhile Text.isDigit) h
  have hdrop := congrArg (List.dropWhile Text.isDigit) h
  rw [takeWhile_isDigit hx hrest, takeWhile_isDigit hy hrest'] at htake
  rw [dropWhile_isDigit hx hrest, dropWhile_isDigit hy hrest'] at hdrop
  exact ⟨htake, hdrop⟩

/-! ## Reading points -/

/-- **A point is read from two runs of digits with a comma between them.** -/
theorem readPoint_eq_some_iff {text : List Char} {point : Nat × Nat} :
    readPoint text = some point ↔ ∃ xs ys, text = xs ++ ',' :: ys ∧ IsDigits xs ∧ IsDigits ys ∧
      point = (Text.digitsValue xs, Text.digitsValue ys) := by
  rw [readPoint]
  constructor
  · intro h
    have htext := List.takeWhile_append_dropWhile (p := Text.isDigit) (l := text)
    have hxs : ∀ c ∈ text.takeWhile Text.isDigit, Text.isDigit c = true :=
      List.all_eq_true.mp List.all_takeWhile
    split at h
    · rename_i ys hys
      split at h
      · rename_i hruns
        obtain ⟨hx, hy, hall⟩ := hruns
        rw [hys] at htext
        exact ⟨_, ys, htext.symm, ⟨hx, hxs⟩, ⟨hy, List.all_eq_true.mp hall⟩,
          (Option.some.inj h).symm⟩
      · cases h
    · cases h
  · rintro ⟨xs, ys, rfl, hx, hy, rfl⟩
    rw [takeWhile_isDigit hx.digits (undigited_comma ys),
      dropWhile_isDigit hx.digits (undigited_comma ys)]
    exact if_pos ⟨hx.ne_nil, hy.ne_nil, List.all_eq_true.mpr hy.digits⟩

/-! ## The fragment of a point -/

namespace Geometry

/-- The largest number of digits of a horizontal coordinate. -/
def xDigits (g : Geometry) : Nat := (Text.decimalDigits g.width).length

/-- The largest number of digits of a vertical coordinate. -/
def yDigits (g : Geometry) : Nat := (Text.decimalDigits g.height).length

/-- The runs of digits are no longer than a point on the screen needs. -/
structure FitsPoint (g : Geometry) (xs ys : List Char) : Prop where
  x : IsDigits xs
  y : IsDigits ys
  x_le : xs.length ≤ g.xDigits
  y_le : ys.length ≤ g.yDigits

theorem fitsPoint_iff {g : Geometry} {xs ys : List Char} : g.FitsPoint xs ys ↔
    (IsDigits xs ∧ IsDigits ys) ∧ xs.length ≤ g.xDigits ∧ ys.length ≤ g.yDigits :=
  ⟨fun h => ⟨⟨h.x, h.y⟩, h.x_le, h.y_le⟩, fun h => ⟨h.1.1, h.1.2, h.2.1, h.2.2⟩⟩

instance (g : Geometry) (xs ys : List Char) : Decidable (g.FitsPoint xs ys) :=
  decidable_of_iff _ fitsPoint_iff.symm

theorem matches_digitsFor_iff {bound : Nat} {word : List Char} :
    (Fragment.digitsFor bound).Matches word ↔
      IsDigits word ∧ word.length ≤ (Text.decimalDigits bound).length := by
  constructor
  · intro h
    cases h with
    | digits hmin hmax hdigits => exact ⟨⟨List.length_pos_iff.mp hmin, hdigits⟩, hmax⟩
  · rintro ⟨hword, hlength⟩
    exact .digits (List.length_pos_iff.mpr hword.ne_nil) hlength hword.digits

theorem pointFragment_matches_iff {g : Geometry} {word : List Char} :
    g.pointFragment.Matches word ↔ ∃ xs ys, word = xs ++ ',' :: ys ∧ g.FitsPoint xs ys := by
  constructor
  · intro h
    cases h with
    | @seqCons _ _ xs _ hx hlater =>
      cases hlater with
      | seqCons hcomma hlater =>
        cases hcomma
        cases hlater with
        | @seqCons _ _ ys _ hy hnil =>
          cases hnil
          obtain ⟨hx, hxLength⟩ := matches_digitsFor_iff.mp hx
          obtain ⟨hy, hyLength⟩ := matches_digitsFor_iff.mp hy
          exact ⟨xs, ys, by simp, hx, hy, hxLength, hyLength⟩
  · rintro ⟨xs, ys, rfl, hfits⟩
    have hx := matches_digitsFor_iff.mpr ⟨hfits.x, hfits.x_le⟩
    have hy := matches_digitsFor_iff.mpr ⟨hfits.y, hfits.y_le⟩
    have hrow : g.pointFragment.Matches (xs ++ ([','] ++ (ys ++ []))) :=
      .seqCons hx (.seqCons .char (.seqCons hy .seqNil))
    rw [List.append_nil] at hrow
    exact hrow

end Geometry

/-! ## Where a point can end -/

namespace Fragment

/-- An end behind `digits` leaves digits only in front of it. -/
theorem digits_of_mem_digitEnds {digits rest : List Char} {max n : Nat}
    (hn : n ∈ digitEnds 1 max (digits ++ rest)) (hlonger : digits.length ≤ n) :
    n ≤ max ∧ n ≤ digits.length + rest.length ∧
      ∀ c ∈ rest.take (n - digits.length), Text.isDigit c = true := by
  obtain ⟨hle, hmatches⟩ := (mem_digitEnds_iff _ _ _ _).mp hn
  have htake : (digits ++ rest).take n = digits ++ rest.take (n - digits.length) := by
    rw [List.take_append, List.take_of_length_le hlonger]
  have hlength : ((digits ++ rest).take n).length = n := List.length_take_of_le hle
  cases hmatches with
  | digits _ hmax hall =>
    refine ⟨hlength ▸ hmax, List.length_append ▸ hle, fun c hc => hall c ?_⟩
    rw [htake]
    exact List.mem_append_right _ hc

/-- Inside a run of digits stands no comma. -/
theorem charEnds_comma_drop {xs : List Char} (hx : ∀ c ∈ xs, Text.isDigit c = true) {n : Nat}
    (hn : n < xs.length) (rest : List Char) :
    charEnds (· == ',') ((xs ++ ',' :: rest).drop n) = [] := by
  rw [List.drop_append_of_le_length (Nat.le_of_lt hn), List.drop_eq_getElem_cons hn,
    List.cons_append, charEnds]
  refine if_neg fun hcomma => ?_
  have hdigit := hx _ (List.getElem_mem hn)
  rw [beq_iff_eq.mp hcomma] at hdigit
  cases hdigit

/-- Of the ends of a run only the last one has a comma behind it. -/
theorem flatMap_digitEnds_comma {xs : List Char} {max : Nat} (hx : IsDigits xs)
    (hlength : xs.length ≤ max) (rest : List Char) :
    (digitEnds 1 max (xs ++ ',' :: rest)).flatMap (fun n =>
      (charEnds (· == ',') ((xs ++ ',' :: rest).drop n)).map (n + ·)) = [xs.length + 1] := by
  have htake : ((xs ++ ',' :: rest).take max).takeWhile Text.isDigit = xs := by
    rw [List.take_append, List.take_of_length_le hlength]
    refine takeWhile_isDigit hx.digits ?_
    cases max - xs.length with
    | zero => exact undigited_nil
    | succ n => exact undigited_comma _
  have hlast : (charEnds (· == ',') ((xs ++ ',' :: rest).drop xs.length)).map (xs.length + ·) =
      [xs.length + 1] := by
    rw [List.drop_left]
    rfl
  obtain ⟨k, hk⟩ : ∃ k, xs.length = k + 1 :=
    Nat.exists_eq_succ_of_ne_zero fun h => hx.ne_nil (List.length_eq_zero_iff.mp h)
  have hends : digitEnds 1 max (xs ++ ',' :: rest) = xs.length :: (List.range' 1 k).reverse := by
    rw [digitEnds, htake, Nat.add_sub_cancel, hk, List.range'_concat, List.reverse_append,
      Nat.one_mul, Nat.add_comm 1 k]
    rfl
  have hearlier : (List.range' 1 k).reverse.flatMap (fun n =>
      (charEnds (· == ',') ((xs ++ ',' :: rest).drop n)).map (n + ·)) = [] := by
    refine List.flatMap_eq_nil_iff.mpr fun n hn => ?_
    have hrange := List.mem_range'_1.mp (List.mem_reverse.mp hn)
    rw [charEnds_comma_drop hx.digits (by omega), List.map_nil]
  rw [hends, List.flatMap_cons, hlast, hearlier, List.append_nil]

end Fragment

/-- **The ends of a point**: the comma tells the first run, and the second one can end at any of its
digits. -/
theorem Geometry.ends_pointFragment {g : Geometry} {xs : List Char} (hx : IsDigits xs)
    (hlength : xs.length ≤ g.xDigits) (rest : List Char) :
    g.pointFragment.ends (xs ++ ',' :: rest) =
      (Fragment.digitEnds 1 g.yDigits rest).map (xs.length + 1 + ·) := by
  have hrest : (xs ++ ',' :: rest).drop (xs.length + 1) = rest := by
    rw [List.drop_append, List.drop_of_length_le (Nat.le_succ _)]
    simp
  have hfirst : ([0].flatMap fun n => ((Fragment.digitsFor g.width).ends
      ((xs ++ ',' :: rest).drop n)).map (n + ·)).eraseDups =
        Fragment.digitEnds 1 g.xDigits (xs ++ ',' :: rest) := by
    rw [List.flatMap_singleton, List.drop_zero]
    simp only [Nat.zero_add, List.map_id']
    exact eraseDups_of_nodup (Fragment.digitEnds_nodup _ _ _)
  have hcomma : ((Fragment.digitEnds 1 g.xDigits (xs ++ ',' :: rest)).flatMap fun n =>
      ((Fragment.char ',').ends ((xs ++ ',' :: rest).drop n)).map (n + ·)).eraseDups =
        [xs.length + 1] := by
    simp only [Fragment.ends]
    rw [Fragment.flatMap_digitEnds_comma hx hlength]
    rfl
  have hlast : ([xs.length + 1].flatMap fun n => ((Fragment.digitsFor g.height).ends
      ((xs ++ ',' :: rest).drop n)).map (n + ·)).eraseDups =
        (Fragment.digitEnds 1 g.yDigits rest).map (xs.length + 1 + ·) := by
    rw [List.flatMap_singleton, hrest]
    refine eraseDups_of_nodup ((Fragment.digitEnds_nodup _ _ _).map ?_)
    exact fun m n h => Nat.add_left_cancel h
  rw [pointFragment, Fragment.ends, Fragment.rowEnds, hfirst, Fragment.rowEnds, hcomma,
    Fragment.rowEnds, hlast, Fragment.rowEnds]

end ChatPad
