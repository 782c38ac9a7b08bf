import ChatPad.Proofs.Definition.BuiltIn
import ChatPad.Proofs.Parser.SingleToken
import ChatPad.Proofs.Touch.Point

/-!
# Points on the screen

Three things stand between a typed point and a touch: the fragment bounds the lengths of the two runs
of digits by the spelling of the screen's size, reading takes the runs apart again, and the numbers
are compared with the size.  They agree.

* `Geometry.readOnScreen_text`: a typed point is read exactly if it is on the screen;
* `Geometry.readNarrow_eq`: numbers are read without a bound, and a reader that gives up on numbers of
  more than 32 bits reads the same, because the size of a screen has no more than these;
* `PlainParser.touch_parsed_iff_on_screen`: a chat that may only touch or drag once takes the points
  of the screen, in any spelling that is no longer than the size, and nothing else.
-/

namespace ChatPad

/-! ## Decimal spellings -/

namespace Text

theorem isDigit_of_mem_decimalDigits {n : Nat} {c : Char} (h : c ∈ decimalDigits n) :
    isDigit c = true := by
  have hdigit := Nat.isDigit_of_mem_toDigits (by decide) (by decide) h
  rw [Char.isDigit, Bool.and_eq_true, decide_eq_true_eq, decide_eq_true_eq] at hdigit
  rw [isDigit, Bool.and_eq_true, decide_eq_true_eq, decide_eq_true_eq]
  exact hdigit

theorem isDigits_decimalDigits (n : Nat) : IsDigits (decimalDigits n) where
  ne_nil := Nat.toDigits_ne_nil
  digits _ := isDigit_of_mem_decimalDigits

/-- A number is the value of its digits. -/
theorem digitsValue_decimalDigits (n : Nat) : digitsValue (decimalDigits n) = n :=
  Nat.ofDigitChars_toDigits (by decide) (by decide)

/-- A smaller number is spelled with no more digits, also at a power of ten. -/
theorem length_decimalDigits_mono {m n : Nat} (h : m ≤ n) :
    (decimalDigits m).length ≤ (decimalDigits n).length := by
  have hpos : 0 < (decimalDigits n).length := List.length_pos_iff.mpr Nat.toDigits_ne_nil
  have hn : n < 10 ^ (decimalDigits n).length :=
    (Nat.length_toDigits_le_iff (by decide) hpos).mp (Nat.le_refl _)
  exact (Nat.length_toDigits_le_iff (by decide) hpos).mpr (Nat.lt_of_le_of_lt h hn)

end Text

/-! ## Typed points -/

/-- A point as it is typed: a run of digits for each coordinate. -/
structure TypedPoint where
  xs : List Char
  ys : List Char
  isDigits_xs : IsDigits xs
  isDigits_ys : IsDigits ys

namespace TypedPoint

/-- The point with a comma between its runs. -/
def text (t : TypedPoint) : List Char := t.xs ++ ',' :: t.ys

def x (t : TypedPoint) : Nat := Text.digitsValue t.xs

def y (t : TypedPoint) : Nat := Text.digitsValue t.ys

/-- The coordinates are spelled with no more digits than the size of the screen. -/
def Fits (t : TypedPoint) (g : Geometry) : Prop := t.xs.length ≤ g.xDigits ∧ t.ys.length ≤ g.yDigits

/-- The coordinates, however large, are below the size of the screen. -/
def OnScreen (t : TypedPoint) (g : Geometry) : Prop := t.x < g.width ∧ t.y < g.height

instance (t : TypedPoint) (g : Geometry) : Decidable (t.OnScreen g) := instDecidableAnd

/-- A coordinate is not below the size of the screen. -/
def Beyond (t : TypedPoint) (g : Geometry) : Prop := g.width ≤ t.x ∨ g.height ≤ t.y

/-- A drag as it is typed: two points with an arrow between them. -/
def dragText (t u : TypedPoint) : List Char := t.text ++ '>' :: u.text

/-- A point, spelled without leading zeros. -/
def decimal (x y : Nat) : TypedPoint where
  xs := Text.decimalDigits x
  ys := Text.decimalDigits y
  isDigits_xs := Text.isDigits_decimalDigits x
  isDigits_ys := Text.isDigits_decimalDigits y

/-- The touch of a point, where it is executed. -/
def touch (t : TypedPoint) (g : Geometry) (name text : String) : Input :=
  ⟨text, name, text, .touch (g.transform t.x t.y).1 (g.transform t.x t.y).2⟩

/-- The drag between two points, each of them where it is executed. -/
def drag (t u : TypedPoint) (g : Geometry) (name text : String) : Input :=
  ⟨text, name, text, .drag (g.transform t.x t.y).1 (g.transform t.x t.y).2
    (g.transform u.x u.y).1 (g.transform u.x u.y).2⟩

variable {t u t' u' : TypedPoint} {g : Geometry} {x y : Nat}

theorem not_onScreen_iff : ¬ t.OnScreen g ↔ t.Beyond g := by
  rw [OnScreen, Beyond]
  omega

theorem text_decimal : (decimal x y).text = (Definition.pointText (x, y)).toList := by
  simp only [Definition.pointText, Text.decimal, String.toList_append, String.toList_ofList,
    List.append_assoc]
  rfl

theorem onScreen_decimal_iff : (decimal x y).OnScreen g ↔ x < g.width ∧ y < g.height := by
  show Text.digitsValue (Text.decimalDigits x) < _ ∧ Text.digitsValue (Text.decimalDigits y) < _ ↔ _
  rw [Text.digitsValue_decimalDigits, Text.digitsValue_decimalDigits]

/-- **What is on the screen fits**, if it is spelled without leading zeros. -/
theorem fits_decimal (h : x < g.width ∧ y < g.height) : (decimal x y).Fits g :=
  ⟨Text.length_decimalDigits_mono (Nat.le_of_lt h.1), Text.length_decimalDigits_mono (Nat.le_of_lt h.2)⟩

theorem text_injective (h : t.text = t'.text) : t = t' := by
  obtain ⟨xs, ys, hx, hy⟩ := t
  obtain ⟨xs', ys', hx', hy'⟩ := t'
  obtain ⟨rfl, htail⟩ := digits_append_inj hx.digits hx'.digits (undigited_comma ys)
    (undigited_comma ys') h
  obtain rfl := (List.cons.inj htail).2
  rfl

/-- No point has an arrow in it. -/
theorem ne_arrow_of_mem_text {c : Char} (h : c ∈ t.text) : (c != '>') = true := by
  rw [bne_iff_ne]
  rintro rfl
  rcases List.mem_append.mp h with hxs | hys
  · exact absurd (t.isDigits_xs.digits _ hxs) (by decide)
  · rcases List.mem_cons.mp hys with hcomma | hys
    · exact absurd hcomma (by decide)
    · exact absurd (t.isDigits_ys.digits _ hys) (by decide)

theorem takeWhile_dragText : (dragText t u).takeWhile (· != '>') = t.text := by
  rw [dragText, List.takeWhile_append_of_pos fun _ => ne_arrow_of_mem_text,
    List.takeWhile_cons_of_neg (by decide), List.append_nil]

theorem dropWhile_dragText : (dragText t u).dropWhile (· != '>') = '>' :: u.text := by
  rw [dragText, List.dropWhile_append_of_pos fun _ => ne_arrow_of_mem_text,
    List.dropWhile_cons_of_neg (by decide)]

theorem dragText_injective (h : dragText t u = dragText t' u') : t = t' ∧ u = u' := by
  have htake := congrArg (List.takeWhile (· != '>')) h
  have hdrop := congrArg (List.dropWhile (· != '>')) h
  rw [takeWhile_dragText, takeWhile_dragText] at htake
  rw [dropWhile_dragText, dropWhile_dragText] at hdrop
  exact ⟨text_injective htake, text_injective (List.cons.inj hdrop).2⟩

end TypedPoint

/-! ## Fragments -/

namespace Geometry

variable {g : Geometry} {word : List Char}

theorem pointFragment_matches_iff_exists :
    g.pointFragment.Matches word ↔ ∃ t : TypedPoint, word = t.text ∧ t.Fits g := by
  rw [pointFragment_matches_iff]
  constructor
  · rintro ⟨xs, ys, rfl, hfits⟩
    exact ⟨⟨xs, ys, hfits.x, hfits.y⟩, rfl, hfits.x_le, hfits.y_le⟩
  · rintro ⟨t, rfl, hx, hy⟩
    exact ⟨t.xs, t.ys, rfl, t.isDigits_xs, t.isDigits_ys, hx, hy⟩

theorem dragFragment_matches_iff {name : String} : (Definition.drag name g).fragment.Matches word ↔
    ∃ t u : TypedPoint, word = t.dragText u ∧ t.Fits g ∧ u.Fits g := by
  constructor
  · intro h
    cases h with
    | seqCons hstart hlater =>
      cases hlater with
      | seqCons harrow hlater =>
        cases harrow
        cases hlater with
        | seqCons hstop hnil =>
          cases hnil
          obtain ⟨t, rfl, ht⟩ := pointFragment_matches_iff_exists.mp hstart
          obtain ⟨u, rfl, hu⟩ := pointFragment_matches_iff_exists.mp hstop
          exact ⟨t, u, by rw [List.append_nil]; rfl, ht, hu⟩
  · rintro ⟨t, u, rfl, ht, hu⟩
    have hstart := pointFragment_matches_iff_exists.mpr ⟨t, rfl, ht⟩
    have hstop := pointFragment_matches_iff_exists.mpr ⟨u, rfl, hu⟩
    have hrow : (Definition.drag name g).fragment.Matches (t.text ++ (['>'] ++ (u.text ++ []))) :=
      .seqCons hstart (.seqCons .char (.seqCons hstop .seqNil))
    rw [List.append_nil] at hrow
    exact hrow

/-! ## Reading -/

theorem readPoint_text (t : TypedPoint) : readPoint t.text = some (t.x, t.y) :=
  readPoint_eq_some_iff.mpr ⟨t.xs, t.ys, rfl, t.isDigits_xs, t.isDigits_ys, rfl⟩

/-- **A typed point is read if it is on the screen**, as the point where it is executed. -/
theorem readOnScreen_text (t : TypedPoint) :
    g.readOnScreen t.text = if t.OnScreen g then some (g.transform t.x t.y) else none := by
  have hcontains : g.contains t.x t.y = true ↔ t.OnScreen g := by
    rw [contains, Bool.and_eq_true, decide_eq_true_eq, decide_eq_true_eq]
    rfl
  rw [readOnScreen, readPoint_text]
  exact if_congr hcontains rfl rfl

/-- Reads a point into numbers of 32 bits, and keeps it if it lies on the screen. -/
def readNarrow (g : Geometry) (text : List Char) : Option (Nat × Nat) := do
  let (x, y) ← readPoint text
  guard (x ≤ largest ∧ y ≤ largest)
  if g.contains x y then some (g.transform x y) else none

/-- **Nothing on the screen is too large to be read**: coordinates of more than 32 bits are refused
either way. -/
theorem readNarrow_eq (hwidth : g.width ≤ largest) (hheight : g.height ≤ largest)
    (text : List Char) : g.readNarrow text = g.readOnScreen text := by
  rw [readNarrow, readOnScreen]
  refine congrArg (readPoint text).bind (funext fun ⟨x, y⟩ => ?_)
  by_cases hnarrow : x ≤ largest ∧ y ≤ largest
  · simp [guard, hnarrow]
  · have hout : g.contains x y = false := by
      simp only [contains, Bool.and_eq_false_iff, decide_eq_false_iff_not]
      omega
    simp [guard, hnarrow, hout]

end Geometry

namespace Definition

variable {name text : String} {g : Geometry} {t u : TypedPoint}

theorem read_touch_text (htext : text.toList = t.text) : (touch name g).read text =
    if t.OnScreen g then some (t.touch g name text) else none := by
  simp only [touch, htext, Geometry.readOnScreen_text]
  split <;> rfl

theorem read_drag_text (htext : text.toList = t.dragText u) : (drag name g).read text =
    if t.OnScreen g ∧ u.OnScreen g then some (t.drag u g name text) else none := by
  simp only [drag, htext, TypedPoint.dropWhile_dragText, TypedPoint.takeWhile_dragText,
    Geometry.readOnScreen_text]
  by_cases ht : t.OnScreen g
  · by_cases hu : u.OnScreen g
    · rw [if_pos ht, if_pos hu, if_pos (And.intro ht hu)]
      rfl
    · have hboth : ¬ (t.OnScreen g ∧ u.OnScreen g) := fun h => hu h.2
      rw [if_pos ht, if_neg hu, if_neg hboth]
      rfl
  · have hboth : ¬ (t.OnScreen g ∧ u.OnScreen g) := fun h => ht h.1
    rw [if_neg ht, if_neg hboth]
    rfl

end Definition

/-! ## Messages -/

namespace PlainParser

variable {p : PlainParser} {name text : String} {g : Geometry} {sequence : InputSequence}

theorem parse_touch_iff (hp : ofDefinitions [.touch name g] .single = .ok p) :
    (p.parse text).value = some sequence ↔ ∃ t : TypedPoint, text.toList = t.text ∧ t.Fits g ∧
      t.OnScreen g ∧ sequence = ⟨[⟨[t.touch g name text]⟩]⟩ := by
  rw [parse_lone_iff hp]
  constructor
  · rintro ⟨_, hmatches, i, hi, rfl⟩
    obtain ⟨t, htext, hfits⟩ := Geometry.pointFragment_matches_iff_exists.mp hmatches
    rw [Definition.read_touch_text htext, Option.ite_none_right_eq_some] at hi
    obtain ⟨hscreen, ⟨⟩⟩ := hi
    exact ⟨t, htext, hfits, hscreen, rfl⟩
  · rintro ⟨t, htext, hfits, hscreen, rfl⟩
    refine ⟨?_, Geometry.pointFragment_matches_iff_exists.mpr ⟨t, htext, hfits⟩, _, ?_, rfl⟩
    · rintro rfl
      exact absurd htext.symm (List.append_ne_nil_of_right_ne_nil _ (List.cons_ne_nil _ _))
    · rw [Definition.read_touch_text htext, if_pos hscreen]

theorem parse_drag_iff (hp : ofDefinitions [.drag name g] .single = .ok p) :
    (p.parse text).value = some sequence ↔ ∃ t u : TypedPoint, text.toList = t.dragText u ∧
      (t.Fits g ∧ u.Fits g) ∧ (t.OnScreen g ∧ u.OnScreen g) ∧
      sequence = ⟨[⟨[t.drag u g name text]⟩]⟩ := by
  rw [parse_lone_iff hp]
  constructor
  · rintro ⟨_, hmatches, i, hi, rfl⟩
    obtain ⟨t, u, htext, hfits⟩ := Geometry.dragFragment_matches_iff.mp hmatches
    rw [Definition.read_drag_text htext, Option.ite_none_right_eq_some] at hi
    obtain ⟨hscreen, ⟨⟩⟩ := hi
    exact ⟨t, u, htext, hfits, hscreen, rfl⟩
  · rintro ⟨t, u, htext, hfits, hscreen, rfl⟩
    refine ⟨?_, Geometry.dragFragment_matches_iff.mpr ⟨t, u, htext, hfits⟩, _, ?_, rfl⟩
    · rintro rfl
      exact absurd htext.symm (List.append_ne_nil_of_right_ne_nil _ (List.cons_ne_nil _ _))
    · rw [Definition.read_drag_text htext, if_pos hscreen]

/-- Of the points without leading zeros those on the screen are taken. -/
theorem isSome_parse_pointText_iff (hp : ofDefinitions [.touch name g] .single = .ok p) (x y : Nat) :
    (p.parse (Definition.pointText (x, y))).value.isSome = true ↔ x < g.width ∧ y < g.height := by
  rw [Option.isSome_iff_exists, ← TypedPoint.onScreen_decimal_iff]
  constructor
  · rintro ⟨sequence, h⟩
    obtain ⟨t, htext, _, hscreen, _⟩ := (parse_touch_iff hp).mp h
    rwa [TypedPoint.text_injective (TypedPoint.text_decimal.trans htext)]
  · intro hscreen
    have hfits := TypedPoint.fits_decimal (TypedPoint.onScreen_decimal_iff.mp hscreen)
    exact ⟨_, (parse_touch_iff hp).mpr ⟨_, TypedPoint.text_decimal.symm, hfits, hscreen, rfl⟩⟩

theorem isSome_parse_dragText_iff (hp : ofDefinitions [.drag name g] .single = .ok p)
    (x y x2 y2 : Nat) : (p.parse (Definition.pointText (x, y) ++ ">" ++
      Definition.pointText (x2, y2))).value.isSome = true ↔
        (x < g.width ∧ y < g.height) ∧ x2 < g.width ∧ y2 < g.height := by
  have htext : (Definition.pointText (x, y) ++ ">" ++ Definition.pointText (x2, y2)).toList =
      (TypedPoint.decimal x y).dragText (TypedPoint.decimal x2 y2) := by
    rw [String.toList_append, String.toList_append, ← TypedPoint.text_decimal,
      ← TypedPoint.text_decimal, List.append_assoc]
    rfl
  rw [Option.isSome_iff_exists, ← TypedPoint.onScreen_decimal_iff, ← TypedPoint.onScreen_decimal_iff]
  constructor
  · rintro ⟨sequence, h⟩
    obtain ⟨t, u, htext', _, hscreen, _⟩ := (parse_drag_iff hp).mp h
    obtain ⟨rfl, rfl⟩ := TypedPoint.dragText_injective (htext.symm.trans htext')
    exact hscreen
  · intro hscreen
    have hstart := TypedPoint.fits_decimal (TypedPoint.onScreen_decimal_iff.mp hscreen.1)
    have hstop := TypedPoint.fits_decimal (TypedPoint.onScreen_decimal_iff.mp hscreen.2)
    exact ⟨_, (parse_drag_iff hp).mpr ⟨_, _, htext, ⟨hstart, hstop⟩, hscreen, rfl⟩⟩

/-- **Where one touch is all that a message can be, the points of the screen are taken and nothing
else**, and likewise with drags.  This stays so where numbers of more than 32 bits are not read, if the
size of the screen has no more than these. -/
theorem touch_parsed_iff_on_screen (name : String) (g : Geometry) :
    (∃ p, ofDefinitions [.touch name g] .single = .ok p ∧
      (∀ text sequence, (p.parse text).value = some sequence ↔ ∃ t : TypedPoint,
        text.toList = t.text ∧ t.Fits g ∧ t.OnScreen g ∧
          sequence = ⟨[⟨[t.touch g name text]⟩]⟩) ∧
      ∀ x y, (p.parse (Definition.pointText (x, y))).value.isSome = true ↔
        x < g.width ∧ y < g.height) ∧
    (∃ p, ofDefinitions [.drag name g] .single = .ok p ∧
      (∀ text sequence, (p.parse text).value = some sequence ↔ ∃ t u : TypedPoint,
        text.toList = t.dragText u ∧ (t.Fits g ∧ u.Fits g) ∧ (t.OnScreen g ∧ u.OnScreen g) ∧
          sequence = ⟨[⟨[t.drag u g name text]⟩]⟩) ∧
      ∀ x y x2 y2, (p.parse (Definition.pointText (x, y) ++ ">" ++
        Definition.pointText (x2, y2))).value.isSome = true ↔
          (x < g.width ∧ y < g.height) ∧ x2 < g.width ∧ y2 < g.height) ∧
    (g.width ≤ Geometry.largest → g.height ≤ Geometry.largest →
      ∀ text, g.readNarrow text = g.readOnScreen text) := by
  obtain ⟨p, hp⟩ := exists_ofDefinitions_lone (.touch name g)
  obtain ⟨q, hq⟩ := exists_ofDefinitions_lone (.drag name g)
  exact ⟨⟨p, hp, fun _ _ => parse_touch_iff hp, isSome_parse_pointText_iff hp⟩,
    ⟨q, hq, fun _ _ => parse_drag_iff hq, isSome_parse_dragText_iff hq⟩, Geometry.readNarrow_eq⟩

/-- The point in the corner is taken, and leading zeros are where `100` and `50` leave room for them,
but no more of them, and no point on the edge. -/
example : (ofDefinitions [.touch "touch" ⟨100, 50, 0, 0, 0, 0⟩] .single).toOption.map (fun p =>
    ["99,49", "099,07", "0099,07", "99,50"].map fun text => (p.parse text).value.isSome) =
      some [true, true, false, false] := by decide +kernel

end PlainParser

end ChatPad
