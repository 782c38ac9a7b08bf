import ChatPad.Proofs.Assembly.Played
import ChatPad.Proofs.Touch.Point

/-!
# Messages of points

With a touchscreen and nothing else, the tokens of a message are points.  A message is then a chain of
points: after each one its set goes on, or another set begins, or the message ends.

* `PointChain.reads_reading`, `PointChain.exists_of_valid`: the readings are those of chains;
* `PointChain.captures_reading`: what the reading of a chain records, point by point.
-/

namespace ChatPad

/-- A chain of points, each with its two runs of digits.  A point is the last of the message, or another
one of its set follows, or the first one of the next set. -/
inductive PointChain where
  | last (x y : List Char) (held : Bool) (times : Option Nat)
  | plus (x y : List Char) (later : PointChain)
  | next (x y : List Char) (held : Bool) (times : Option Nat) (later : PointChain)

/-- A point as a token. -/
def pointToken (x y : List Char) : ReadToken := ⟨0, x ++ ',' :: y⟩

/-- A set with so many tokens can end like this. -/
structure Limits.AllowsEnd (limits : Limits) (tokens : Nat) (held : Bool) (times : Option Nat) :
    Prop where
  length : tokens ≤ limits.setLength
  held : held = true → limits.hold = true
  times : ∀ count ∈ times, limits.AllowsTimes count

namespace PointChain

/-! ## Parts -/

/-- The first run of digits. -/
def x : PointChain → List Char
  | last x _ _ _ => x
  | plus x _ _ => x
  | next x _ _ _ _ => x

/-- The chain with another first run. -/
def withX (x : List Char) : PointChain → PointChain
  | last _ y held times => last x y held times
  | plus _ y later => plus x y later
  | next _ y held times later => next x y held times later

/-- The text after the first comma. -/
def tail : PointChain → List Char
  | last _ y held times => y ++ (holdText held ++ timesText times)
  | plus _ y later => y ++ '+' :: (later.x ++ ',' :: later.tail)
  | next _ y held times later =>
    y ++ (holdText held ++ (timesText times ++ (later.x ++ ',' :: later.tail)))

def text (c : PointChain) : List Char := c.x ++ ',' :: c.tail

/-- The first set. -/
def set : PointChain → ReadSet
  | last x y held times => ⟨⟨[], held, times⟩, pointToken x y⟩
  | plus x y later => { later.set with first := pointToken x y, more := later.set.tokens }
  | next x y held times _ => ⟨⟨[], held, times⟩, pointToken x y⟩

/-- The sets after the first one. -/
def laterSets : PointChain → Reading
  | last _ _ _ _ => []
  | plus _ _ later => later.laterSets
  | next _ _ _ _ later => later.set :: later.laterSets

def reading (c : PointChain) : Reading := c.set :: c.laterSets

/-- How many sets are played. -/
def plays : PointChain → Nat
  | last _ _ _ times => times.getD 1
  | plus _ _ later => later.plays
  | next _ _ _ times later => times.getD 1 + later.plays

/-- The chain fits the screen and the limits, after `tokens` tokens of its first set. -/
def Fits (g : Geometry) (limits : Limits) : Nat → PointChain → Prop
  | tokens, last x y held times => g.FitsPoint x y ∧ limits.AllowsEnd (tokens + 1) held times
  | tokens, plus x y later => g.FitsPoint x y ∧ later.Fits g limits (tokens + 1)
  | tokens, next x y held times later =>
    g.FitsPoint x y ∧ limits.AllowsEnd (tokens + 1) held times ∧ later.Fits g limits 0

/-- What the chain records, if its first point begins at `offset` in the set that begins at `start`. -/
def trace (start : Nat) (slot : Slot) (offset : Nat) : PointChain → List Capture
  | last x y held times =>
    (pointToken x y).capture slot offset ::
      holdCaptures start (offset + Text.byteLength (pointToken x y).word) times held
  | plus x y later =>
    (pointToken x y).capture slot offset ::
      later.trace start .additional (offset + Text.byteLength (pointToken x y).word + 1)
  | next x y held times later =>
    let stop := offset + Text.byteLength (pointToken x y).word
    let following := stop + Text.byteLength (holdText held ++ timesText times)
    (pointToken x y).capture slot offset :: (holdCaptures start stop times held ++
      later.trace following .leading following)

variable {g : Geometry} {limits : Limits} {c : PointChain}

theorem x_withX (x : List Char) (c : PointChain) : (c.withX x).x = x := by
  cases c <;> rfl

theorem laterSets_withX (x : List Char) (c : PointChain) : (c.withX x).laterSets = c.laterSets := by
  cases c <;> rfl

theorem plays_withX (x : List Char) (c : PointChain) : (c.withX x).plays = c.plays := by
  cases c <;> rfl

theorem tail_withX (x : List Char) (c : PointChain) : (c.withX x).tail = c.tail := by
  cases c <;> rfl

theorem fits_x {tokens : Nat} (h : c.Fits g limits tokens) :
    IsDigits c.x ∧ c.x.length ≤ g.xDigits := by
  cases c with
  | last => exact ⟨h.1.x, h.1.x_le⟩
  | plus => exact ⟨h.1.x, h.1.x_le⟩
  | next => exact ⟨h.1.x, h.1.x_le⟩

theorem fits_withX {tokens : Nat} (h : c.Fits g limits tokens) {x : List Char} (hx : IsDigits x)
    (hlength : x.length ≤ g.xDigits) : (c.withX x).Fits g limits tokens := by
  cases c with
  | last => exact ⟨⟨hx, h.1.y, hlength, h.1.y_le⟩, h.2⟩
  | plus => exact ⟨⟨hx, h.1.y, hlength, h.1.y_le⟩, h.2⟩
  | next => exact ⟨⟨hx, h.1.y, hlength, h.1.y_le⟩, h.2⟩

/-- There is room for the token that comes next. -/
theorem lt_setLength (c : PointChain) : ∀ {tokens : Nat}, c.Fits g limits tokens →
    tokens < limits.setLength := by
  induction c with
  | last => exact fun h => h.2.length
  | plus x y later ih => exact fun h => Nat.lt_of_succ_lt (ih h.2)
  | next => exact fun h => h.2.1.length

/-! ## Readings -/

/-- The rest of the first set and the later sets spell the rest of the text. -/
theorem text_reading_from (c : PointChain) :
    c.set.first.word ++ (c.set.toSetRest.text ++ Reading.text c.laterSets) = c.text := by
  induction c with
  | last x y held times => simp [set, laterSets, Reading.text, SetRest.text, moreText, pointToken,
      text, PointChain.x, tail]
  | plus x y later ih =>
    have htext : (set (plus x y later)).toSetRest.text =
        '+' :: (later.set.first.word ++ later.set.toSetRest.text) :=
      SetRest.text_cons later.set.first later.set.more later.set.held later.set.times
    rw [htext, List.cons_append, List.append_assoc, laterSets, ih]
    simp [set, pointToken, text, PointChain.x, tail]
  | next x y held times later ih =>
    rw [laterSets, Reading.text, List.flatMap_cons, ReadSet.text, List.append_assoc]
    rw [Reading.text] at ih
    rw [ih]
    simp [set, SetRest.text, moreText, pointToken, text, PointChain.x, tail]

theorem text_reading (c : PointChain) : Reading.text c.reading = c.text := by
  rw [reading, Reading.text, List.flatMap_cons, ReadSet.text, List.append_assoc]
  exact c.text_reading_from

/-- What the reading of a chain plays. -/
theorem length_played_reading (definitions : List Definition) (c : PointChain) :
    (Reading.played definitions c.reading).length = c.plays := by
  induction c with
  | last x y held times =>
    rw [reading, laterSets, Reading.length_played_cons]
    rfl
  | plus x y later ih =>
    rw [reading, Reading.length_played_cons] at ih ⊢
    exact ih
  | next x y held times later ih =>
    rw [reading, laterSets, Reading.length_played_cons]
    exact congrArg (_ + ·) ih

/-- What the rest of the first set and the later sets record. -/
theorem captures_reading_from (c : PointChain) : ∀ (start : Nat) (slot : Slot) (offset : Nat),
    c.set.first.capture slot offset ::
        (c.set.toSetRest.captures start (offset + Text.byteLength c.set.first.word) ++
          Reading.captures (offset + Text.byteLength c.set.text) c.laterSets) =
      c.trace start slot offset := by
  induction c with
  | last x y held times =>
    intro start slot offset
    rw [laterSets, Reading.captures, List.append_nil]
    rfl
  | plus x y later ih =>
    intro start slot offset
    have hlater := ih start .additional (offset + Text.byteLength (pointToken x y).word + 1)
    rw [trace, ← hlater, laterSets]
    have htext : offset + Text.byteLength (set (plus x y later)).text =
        offset + Text.byteLength (pointToken x y).word + 1 + Text.byteLength later.set.text := by
      rw [ReadSet.text, ReadSet.text, Text.byteLength_append, Text.byteLength_append,
        ← Nat.add_assoc, ← Nat.add_assoc]
      exact SetRest.offset_text_cons _ later.set.first later.set.more later.set.held later.set.times
    rw [htext]
    rfl
  | next x y held times later ih =>
    intro start slot offset
    have htext : offset + Text.byteLength (set (next x y held times later)).text =
        offset + Text.byteLength (pointToken x y).word +
          Text.byteLength (holdText held ++ timesText times) := by
      rw [ReadSet.text, Text.byteLength_append, ← Nat.add_assoc]
      rfl
    rw [trace, ← ih, laterSets, htext, Reading.captures, ReadSet.captures, List.cons_append]
    rfl

/-- **What the reading of a chain records**, point by point. -/
theorem captures_reading (c : PointChain) (offset : Nat) :
    Reading.captures offset c.reading = c.trace offset .leading offset :=
  c.captures_reading_from offset .leading offset

/-! ## Readings are chains -/

variable {name : String}

theorem exists_point_of_valid {t : ReadToken} (ht : t.Valid [.touch name g]) :
    ∃ x y, t = pointToken x y ∧ g.FitsPoint x y := by
  obtain ⟨d, hd, hmatches⟩ := ht.matched
  obtain ⟨hzero, rfl⟩ : t.definition = 0 ∧ Definition.touch name g = d := by
    simpa [List.getElem?_singleton] using hd
  obtain ⟨x, y, hword, hfits⟩ := Geometry.pointFragment_matches_iff.mp hmatches
  refine ⟨x, y, ?_, hfits⟩
  rw [pointToken, ← hword, ← hzero]

theorem valid_pointToken {x y : List Char} (h : g.FitsPoint x y) :
    (pointToken x y).Valid [.touch name g] where
  ne_nil := by simp [pointToken]
  matched := ⟨.touch name g, rfl, Geometry.pointFragment_matches_iff.mpr ⟨x, y, rfl, h⟩⟩

/-- The rest of the first set and the later sets are what the grammar allows. -/
theorem valid_of_fits (c : PointChain) : ∀ {tokens : Nat}, c.Fits g limits tokens →
    c.set.first.Valid [.touch name g] ∧
      SetRest.Valid [.touch name g] limits (tokens + 1) c.set.toSetRest ∧
      ∀ set ∈ c.laterSets, set.Valid [.touch name g] limits := by
  induction c with
  | last x y held times =>
    intro tokens h
    obtain ⟨hpoint, hending⟩ := h
    exact ⟨valid_pointToken hpoint, ⟨List.forall_mem_nil _, hending.length, hending.held,
      hending.times⟩, List.forall_mem_nil _⟩
  | plus x y later ih =>
    intro tokens h
    obtain ⟨hpoint, hlater⟩ := h
    obtain ⟨hfirst, hrest, hsets⟩ := ih hlater
    have hlength : tokens + 1 + later.set.tokens.length ≤ limits.setLength := by
      have := hrest.length
      rw [ReadSet.tokens, List.length_cons]
      omega
    exact ⟨valid_pointToken hpoint,
      ⟨List.forall_mem_cons.mpr ⟨hfirst, hrest.more⟩, hlength, hrest.held, hrest.times⟩, hsets⟩
  | next x y held times later ih =>
    intro tokens h
    obtain ⟨hpoint, hending, hlater⟩ := h
    obtain ⟨hfirst, hrest, hsets⟩ := ih hlater
    exact ⟨valid_pointToken hpoint, ⟨List.forall_mem_nil _, hending.length, hending.held,
      hending.times⟩, List.forall_mem_cons.mpr ⟨⟨hfirst, hrest⟩, hsets⟩⟩

/-- **A chain that fits is a reading of its text.** -/
theorem reads_reading (h : c.Fits g limits 0) (hlength : c.reading.length ≤ limits.sequenceLength) :
    Reads [.touch name g] limits c.text c.reading where
  ne_nil := List.cons_ne_nil _ _
  length := hlength
  valid := by
    obtain ⟨hfirst, hrest, hsets⟩ := c.valid_of_fits h
    exact List.forall_mem_cons.mpr ⟨⟨hfirst, hrest⟩, hsets⟩
  text := c.text_reading.symm

/-- A set before the sets of a chain, or the last one, is the first set of a chain. -/
theorem exists_of_set {later : Option PointChain} (hlater : ∀ c ∈ later, c.Fits g limits 0)
    (held : Bool) (times : Option Nat) (more : List ReadToken) :
    ∀ (first : ReadToken) (tokens : Nat), first.Valid [.touch name g] →
      SetRest.Valid [.touch name g] limits (tokens + 1) ⟨more, held, times⟩ →
      ∃ c : PointChain, c.Fits g limits tokens ∧ c.set = ⟨⟨more, held, times⟩, first⟩ ∧
        c.laterSets = (later.map reading).getD [] := by
  induction more with
  | nil =>
    intro first tokens hfirst hrest
    obtain ⟨x, y, rfl, hpoint⟩ := exists_point_of_valid hfirst
    have hend : limits.AllowsEnd (tokens + 1) held times := ⟨hrest.length, hrest.held, hrest.times⟩
    cases later with
    | none => exact ⟨last x y held times, ⟨hpoint, hend⟩, rfl, rfl⟩
    | some c => exact ⟨next x y held times c, ⟨hpoint, hend, hlater c rfl⟩, rfl, rfl⟩
  | cons t more ih =>
    intro first tokens hfirst hrest
    obtain ⟨x, y, rfl, hpoint⟩ := exists_point_of_valid hfirst
    obtain ⟨ht, hmore⟩ := List.forall_mem_cons.mp hrest.more
    have hlength : tokens + 1 + 1 + more.length ≤ limits.setLength := by
      have := hrest.length
      rw [List.length_cons] at this
      omega
    obtain ⟨c, hc, hset, hsets⟩ := ih t (tokens + 1) ht ⟨hmore, hlength, hrest.held, hrest.times⟩
    refine ⟨plus x y c, ⟨hpoint, hc⟩, ?_, hsets⟩
    rw [set, hset]
    rfl

/-- **Every reading is that of a chain.** -/
theorem exists_of_valid {sets : Reading} (hne : sets ≠ [])
    (hsets : ∀ set ∈ sets, set.Valid [.touch name g] limits) :
    ∃ c : PointChain, c.Fits g limits 0 ∧ c.reading = sets := by
  induction sets with
  | nil => exact absurd rfl hne
  | cons set later ih =>
    obtain ⟨hset, hlater⟩ := List.forall_mem_cons.mp hsets
    obtain ⟨later?, hfits, hreading⟩ : ∃ later? : Option PointChain,
        (∀ c ∈ later?, c.Fits g limits 0) ∧ (later?.map reading).getD [] = later := by
      cases later with
      | nil => exact ⟨none, nofun, rfl⟩
      | cons next later =>
        obtain ⟨c, hc, hreading⟩ := ih (List.cons_ne_nil _ _) hlater
        exact ⟨some c, by rintro _ ⟨⟩; exact hc, hreading⟩
    obtain ⟨c, hc, hfirst, hrest⟩ :=
      exists_of_set hfits set.held set.times set.more set.first 0 hset.first hset.rest
    exact ⟨c, hc, by rw [reading, hfirst, hrest, hreading]⟩

end PointChain

end ChatPad
