import ChatPad.Proofs.Touch.Eager

/-!
# The eager chain is found

With a touchscreen and nothing else, the first way to read a text is its eager chain.  The ends of a
second coordinate are tried from the longest down, and no end behind that of the eager chain leaves a
text that can be read: it would begin with a comma.

* `PointChain.head?_tokenWays`: from any point on, the first way is that of the eager chain;
* `PointChain.captures?_eq`: what the search finds in the text of an eager chain;
* `PointChain.exists_eager_of_captures?`: whatever the search finds is an eager chain.
-/

namespace ChatPad

open Grammar

variable {name : String} {g : Geometry} {limits : Limits} {grammar : Grammar}

/-! ## First ways -/

theorem head?_append_of_eq_nil {α : Type} {l l' : List α} (h : l = []) : (l ++ l').head? = l'.head? := by
  rw [h, List.nil_append]

theorem head?_append_of_head? {α : Type} {l : List α} {a : α} (h : l.head? = some a) (l' : List α) :
    (l ++ l').head? = some a := by
  rw [List.head?_append, h, Option.some_or]

theorem head?_map_of_head? {α β : Type} {l : List α} {a : α} (h : l.head? = some a) (f : α → β) :
    (l.map f).head? = some (f a) := by
  rw [List.head?_map, h, Option.map_some]

/-- Along a descending list, the first hit is that of the largest number that has one. -/
theorem head?_flatMap_descending {α : Type} {l : List Nat} (hl : l.Pairwise (· > ·)) {f : Nat → List α}
    {n : Nat} {a : α} (hn : n ∈ l) (hlarger : ∀ m ∈ l, n < m → f m = []) (ha : (f n).head? = some a) :
    (l.flatMap f).head? = some a := by
  induction l with
  | nil => cases hn
  | cons m l ih =>
    obtain ⟨hm, hl⟩ := List.pairwise_cons.mp hl
    obtain ⟨hfirst, hrest⟩ := List.forall_mem_cons.mp hlarger
    rw [List.flatMap_cons]
    rcases List.mem_cons.mp hn with rfl | hn
    · exact head?_append_of_head? ha _
    · rw [head?_append_of_eq_nil (hfirst (hm n hn))]
      exact ih hl hn hrest

/-! ## Points at a place -/

/-- The points that can stand at a place end where their fragment says. -/
theorem tokensAt_point (h : compile [.touch name g] limits = .ok grammar) {x : List Char}
    (hx : IsDigits x) (hlength : x.length ≤ g.xDigits) (rest : List Char) (offset : Nat) (slot : Slot) :
    grammar.exhaustive.tokensAt ⟨offset, x ++ ',' :: rest⟩ slot =
      (Fragment.digitEnds 1 g.yDigits rest).map fun n =>
        ((pointToken x (rest.take n)).capture slot offset,
          ⟨offset + Text.byteLength (pointToken x (rest.take n)).word, rest.drop n⟩) := by
  obtain ⟨_, _, _, rfl⟩ := compile_eq_ok_iff.mp h
  have hends : (Definition.touch name g).fragment.ends (x ++ ',' :: rest) =
      (Fragment.digitEnds 1 g.yDigits rest).map (x.length + 1 + ·) :=
    Geometry.ends_pointFragment hx hlength rest
  have hpositive : ∀ n ∈ (Fragment.digitEnds 1 g.yDigits rest).map (x.length + 1 + ·),
      decide (0 < n) = true := by
    intro n hn
    obtain ⟨m, _, rfl⟩ := List.mem_map.mp hn
    exact decide_eq_true (by omega)
  have htake (n : Nat) : (x ++ ',' :: rest).take (x.length + 1 + n) = x ++ ',' :: rest.take n := by
    rw [Nat.add_assoc, List.take_length_add_append, Nat.add_comm 1, List.take_succ_cons]
  have hdrop (n : Nat) : (x ++ ',' :: rest).drop (x.length + 1 + n) = rest.drop n := by
    rw [Nat.add_assoc, List.drop_length_add_append, Nat.add_comm 1, List.drop_succ_cons]
  show [(⟨0, (Definition.touch name g).fragment, _⟩ : Alternative)].flatMap _ = _
  rw [List.flatMap_singleton, hends, List.filter_eq_self.mpr hpositive, List.map_map]
  refine List.map_congr_left fun n _ => ?_
  simp only [Function.comp_apply, Cursor.advance_eq, htake, hdrop]
  rfl

/-- No point stands where a comma does not follow on a run of digits that is short enough. -/
theorem tokensAt_eq_nil (h : compile [.touch name g] limits = .ok grammar) {text : List Char}
    (htext : ∀ x rest, text = x ++ ',' :: rest → IsDigits x → g.xDigits < x.length) (offset : Nat)
    (slot : Slot) : grammar.exhaustive.tokensAt ⟨offset, text⟩ slot = [] := by
  refine List.eq_nil_iff_forall_not_mem.mpr fun t ht => ?_
  obtain ⟨token, hvalid, after, hword, _⟩ := (mem_tokensAt_exhaustive_iff h).mp ht
  obtain ⟨x, y, rfl, hfits⟩ := PointChain.exists_point_of_valid hvalid
  have hlong := htext x (y ++ after) (by rw [hword]; exact List.append_assoc _ _ _) hfits.x
  exact absurd hfits.x_le (Nat.not_le.mpr hlong)

/-- No point begins with a comma. -/
theorem not_isDigits_before_comma {rest x rest' : List Char} (h : ',' :: rest = x ++ ',' :: rest') :
    ¬ IsDigits x := by
  intro hx
  have hnil : ∀ c ∈ ([] : List Char), Text.isDigit c = true := nofun
  obtain ⟨rfl, _⟩ := digits_append_inj hnil hx.digits (undigited_comma rest)
    (undigited_comma rest') h
  exact hx.ne_nil rfl

/-! ## Ends of sets -/

section Ends

variable {start offset sets tokens : Nat} {trace : List Capture} {held : Bool} {times : Option Nat}
  {later : List Char}

/-- No set ends in front of a text that is not empty and begins with no point. -/
theorem ways_setEnd_eq_nil {text : List Char} (hne : text ≠ [])
    (htokens : ∀ offset, grammar.exhaustive.tokensAt ⟨offset, text⟩ .leading = []) :
    grammar.exhaustive.ways (.setEnd start) ⟨offset, text⟩ sets = [] := by
  rw [Search.ways_setEnd, if_neg (c := text = []) hne, List.append_nil, Search.ways_setStart,
    htokens, List.flatMap_nil]
  split <;> rfl

/-- The end of a set is found without its repeat digit only if it has none. -/
theorem head?_ways_holdEnd (hlimits : grammar.exhaustive.limits = limits)
    (htimes : ∀ count ∈ times, limits.AllowsTimes count ∧
      grammar.exhaustive.ways (.setEnd start) ⟨offset, Nat.digitChar count :: later⟩ sets = [])
    (hend : (grammar.exhaustive.ways (.setEnd start)
      ⟨offset + Text.byteLength (timesText times), later⟩ sets).head? =
        some (.set start (offset + Text.byteLength (timesText times)) :: trace)) :
    (grammar.exhaustive.ways (.holdEnd start) ⟨offset, timesText times ++ later⟩ sets).head? =
      some (timesCaptures start offset times ++ trace) := by
  rw [Search.ways_holdEnd]
  cases times with
  | none => exact head?_append_of_head? hend _
  | some count =>
    obtain ⟨hallowed, hnone⟩ := htimes count rfl
    rw [byteLength_timesText_some] at hend
    have hdigit : grammar.exhaustive.limits.repeatDigit? (timesText (some count) ++ later) =
        some count := by
      rw [hlimits]
      exact Limits.repeatDigit?_eq_some_iff.mpr ⟨hallowed, later, rfl⟩
    rw [hdigit]
    refine (head?_append_of_eq_nil hnone).trans ?_
    show (List.map _ (grammar.exhaustive.ways _
      (Cursor.next ⟨offset, Nat.digitChar count :: later⟩) _)).head? = _
    rw [Cursor.next_cons, utf8Size_digitChar]
    exact head?_map_of_head? hend _

/-- Without a sign behind a token its set can only end. -/
theorem ways_tokenEnd_of_unsigned {s : Search} {here : Cursor} (hplus : here.rest.head? ≠ some '+')
    (hminus : here.rest.head? ≠ some '-') :
    s.ways (.tokenEnd start tokens) here sets = s.ways (.holdEnd start) here sets := by
  rw [Search.ways_tokenEnd, if_neg (fun h => hplus h.2), if_neg (fun h => hminus h.2),
    List.nil_append, List.nil_append]

/-- After the last token of a set its hold marker is found, if it has one. -/
theorem head?_ways_tokenEnd (hlimits : grammar.exhaustive.limits = limits)
    (hending : limits.AllowsEnd tokens held times)
    (hlater : ∀ c ∈ later.head?, Text.isDigit c = true)
    (htimes : ∀ count ∈ times, grammar.exhaustive.ways (.setEnd start)
      ⟨offset + Text.byteLength (holdText held), Nat.digitChar count :: later⟩ sets = [])
    (hend : (grammar.exhaustive.ways (.setEnd start)
      ⟨offset + Text.byteLength (holdText held ++ timesText times), later⟩ sets).head? =
        some (.set start (offset + Text.byteLength (holdText held ++ timesText times)) :: trace)) :
    (grammar.exhaustive.ways (.tokenEnd start tokens)
      ⟨offset, holdText held ++ (timesText times ++ later)⟩ sets).head? =
        some (holdCaptures start offset times held ++ trace) := by
  have hfollowing : ∀ c ∈ (timesText times ++ later).head?, Text.isDigit c = true := by
    cases times with
    | none => exact hlater
    | some count =>
      rintro c ⟨⟩
      exact Text.isDigit_digitChar count (hending.times count rfl).lt_ten
  have hsign (c : Char) (hc : Text.isDigit c = false) : (timesText times ++ later).head? ≠ some c := by
    intro hhead
    rw [hfollowing c hhead] at hc
    cases hc
  rw [Text.byteLength_append, ← Nat.add_assoc] at hend
  have hholdEnd := head?_ways_holdEnd hlimits
    (fun count hcount => ⟨hending.times count hcount, htimes count hcount⟩) hend
  cases held with
  | false =>
    refine (congrArg List.head? (ways_tokenEnd_of_unsigned ?_ ?_)).trans hholdEnd
    · exact hsign '+' (by decide)
    · exact hsign '-' (by decide)
  | true =>
    have hhold : grammar.exhaustive.limits.hold = true := by
      rw [hlimits]
      exact hending.held rfl
    have hplus : some '-' ≠ some '+' := by decide
    rw [Search.ways_tokenEnd, if_neg (fun h => hplus h.2), List.nil_append, if_pos ⟨hhold, rfl⟩]
    exact head?_append_of_head? (head?_map_of_head? hholdEnd _) _

/-- Nothing is found in front of a comma. -/
theorem ways_tokenEnd_comma (h : compile [.touch name g] limits = .ok grammar) (rest : List Char) :
    grammar.exhaustive.ways (.tokenEnd start tokens) ⟨offset, ',' :: rest⟩ sets = [] := by
  have hdigit : grammar.exhaustive.limits.repeatDigit? (',' :: rest) = none :=
    if_neg fun hallowed => absurd hallowed.2.1 (by decide)
  have hsetEnd : grammar.exhaustive.ways (.setEnd start) ⟨offset, ',' :: rest⟩ sets = [] :=
    ways_setEnd_eq_nil (List.cons_ne_nil _ _) fun offset =>
      tokensAt_eq_nil h (fun _ _ htext hx => absurd hx (not_isDigits_before_comma htext)) offset _
  have hunsigned : grammar.exhaustive.ways (.tokenEnd start tokens) ⟨offset, ',' :: rest⟩ sets =
      grammar.exhaustive.ways (.holdEnd start) ⟨offset, ',' :: rest⟩ sets :=
    ways_tokenEnd_of_unsigned (show some ',' ≠ some '+' by decide)
      (show some ',' ≠ some '-' by decide)
  rw [hunsigned, Search.ways_holdEnd, hsetEnd, hdigit, List.nil_append]

end Ends

/-! ## Points -/

/-- What is found from a place on where a token can begin: the tokens that can stand there, each with
what is found behind it. -/
def Search.tokenWays (s : Search) (start tokens : Nat) (here : Cursor) (slot : Slot) (sets : Nat) :
    List (List Capture) :=
  (s.tokensAt here slot).flatMap fun t =>
    (s.ways (.tokenEnd start (tokens + 1)) t.2 sets).map (t.1 :: ·)

/-- **A point is found with its last digit** if it can have no other, or if a text with a comma would
be left behind another. -/
theorem head?_tokenWays_point (h : compile [.touch name g] limits = .ok grammar)
    {x y after : List Char} (hpoint : g.FitsPoint x y)
    (hlast : y.length = g.yDigits ∨ Undigited after ∨ ∃ d rest, after = d :: ',' :: rest)
    {start tokens offset sets : Nat} {trace : List Capture}
    (hways : (grammar.exhaustive.ways (.tokenEnd start (tokens + 1))
      ⟨offset + Text.byteLength (pointToken x y).word, after⟩ sets).head? = some trace) (slot : Slot) :
    (grammar.exhaustive.tokenWays start tokens ⟨offset, x ++ ',' :: (y ++ after)⟩ slot sets).head? =
      some ((pointToken x y).capture slot offset :: trace) := by
  rw [Search.tokenWays, tokensAt_point h hpoint.x hpoint.x_le, List.flatMap_map]
  have hy : y.length ∈ Fragment.digitEnds 1 g.yDigits (y ++ after) := by
    refine (Fragment.mem_digitEnds_iff _ _ _ _).mpr ⟨by simp, ?_⟩
    rw [List.take_left]
    exact .digits (List.length_pos_iff.mpr hpoint.y.ne_nil) hpoint.y_le hpoint.y.digits
  refine head?_flatMap_descending (Fragment.digitEnds_pairwise _ _ _) hy ?_ ?_
  · intro n hn hlonger
    obtain ⟨hbound, hle, hdigits⟩ := Fragment.digits_of_mem_digitEnds hn hlonger.le
    obtain ⟨k, hk⟩ : ∃ k, n - y.length = k + 1 := ⟨n - y.length - 1, by omega⟩
    rw [hk] at hdigits
    rcases hlast with hfull | hnone | ⟨d, rest, rfl⟩
    · omega
    · cases after with
      | nil =>
        rw [List.length_nil] at hle
        omega
      | cons c after =>
        have hc := hdigits c (by simp)
        rw [hnone c rfl] at hc
        cases hc
    · -- the point would take the only digit of the next one
      cases k with
      | zero =>
        have hdrop : (y ++ d :: ',' :: rest).drop n = ',' :: rest := by
          rw [List.drop_append, List.drop_of_length_le hlonger.le, hk]
          rfl
        rw [hdrop, ways_tokenEnd_comma h, List.map_nil]
      | succ k =>
        have hcomma := hdigits ',' (by simp)
        cases hcomma
  · rw [List.take_left, List.drop_left]
    exact head?_map_of_head? hways _

/-! ## The last point of a set -/

/-- What can follow on a set: nothing, or a point whose first coordinate has `x` digits. -/
inductive Follows : Nat → List Char → Prop
  | nothing : Follows 0 []
  | point {x : List Char} (rest : List Char) : IsDigits x → Follows x.length (x ++ ',' :: rest)

variable {x y later : List Char} {held : Bool} {times : Option Nat} {start tokens sets n : Nat}

theorem Follows.head? (hlater : Follows n later) : ∀ c ∈ later.head?, Text.isDigit c = true := by
  cases hlater with
  | nothing => exact nofun
  | @point x rest hx =>
    cases x with
    | nil => exact absurd rfl hx.ne_nil
    | cons c x =>
      rintro _ ⟨⟩
      exact hx.digits c List.mem_cons_self

/-- With a repeat digit that stands apart, what follows is too long to be a point. -/
theorem Follows.ways_setEnd_digit (hlater : Follows n later)
    (h : compile [.touch name g] limits = .ok grammar) (hbehind : n = 0 ∨ n = g.xDigits) {count : Nat}
    (hcount : count < 10) (offset : Nat) : grammar.exhaustive.ways (.setEnd start)
      ⟨offset, Nat.digitChar count :: later⟩ sets = [] := by
  have hdigit := Text.isDigit_digitChar count hcount
  refine ways_setEnd_eq_nil (List.cons_ne_nil _ _) fun offset => tokensAt_eq_nil h ?_ offset _
  intro x' rest' htext hx'
  cases hlater with
  | nothing =>
    have hcomma : ',' ∈ [Nat.digitChar count] := by
      rw [htext]
      simp
    rw [← List.mem_singleton.mp hcomma] at hdigit
    cases hdigit
  | @point x rest hx =>
    have hall : ∀ c ∈ Nat.digitChar count :: x, Text.isDigit c = true :=
      List.forall_mem_cons.mpr ⟨hdigit, hx.digits⟩
    obtain ⟨rfl, _⟩ := digits_append_inj hall hx'.digits (undigited_comma rest)
      (undigited_comma rest') htext
    have hpos := List.length_pos_iff.mpr hx.ne_nil
    rw [List.length_cons]
    omega

/-- The digits of the last point of a set cannot be more, if the set ends eagerly. -/
theorem Follows.last_digit (hlater : Follows n later) (hpoint : g.FitsPoint x y)
    (heager : g.EagerEnd (endDigits held y) n times) :
    y.length = g.yDigits ∨ Undigited (holdText held ++ (timesText times ++ later)) ∨
      ∃ d rest, holdText held ++ (timesText times ++ later) = d :: ',' :: rest := by
  have hne : y.length ≠ 0 := fun hy => hpoint.y.ne_nil (List.length_eq_zero_iff.mp hy)
  cases held with
  | true => exact .inr (.inl (undigited_cons (by decide) _))
  | false =>
    cases times with
    | some count => exact .inl (heager.before.resolve_left hne)
    | none =>
      rcases heager with hy | hy | hshort
      · exact absurd hy hne
      · exact .inl hy
      · cases hlater with
        | nothing => exact .inr (.inl undigited_nil)
        | @point x rest hx =>
          obtain ⟨d, rfl⟩ := List.length_eq_one_iff.mp
            (Nat.le_antisymm hshort (List.length_pos_iff.mpr hx.ne_nil))
          exact .inr (.inr ⟨d, rest, rfl⟩)

/-- **The last point of a set is found with the end of the set**, if that is eager. -/
theorem head?_tokenWays_end (h : compile [.touch name g] limits = .ok grammar)
    (hpoint : g.FitsPoint x y) (hending : limits.AllowsEnd (tokens + 1) held times)
    (hlater : Follows n later) (heager : g.EagerEnd (endDigits held y) n times) {offset : Nat}
    {trace : List Capture} (slot : Slot)
    (hend : ∀ stop, stop = offset + Text.byteLength (pointToken x y).word +
        Text.byteLength (holdText held ++ timesText times) →
      (grammar.exhaustive.ways (.setEnd start) ⟨stop, later⟩ sets).head? =
        some (.set start stop :: trace)) :
    (grammar.exhaustive.tokenWays start tokens
      ⟨offset, x ++ ',' :: (y ++ (holdText held ++ (timesText times ++ later)))⟩ slot sets).head? =
        some ((pointToken x y).capture slot offset ::
          (holdCaptures start (offset + Text.byteLength (pointToken x y).word) times held ++
            trace)) := by
  refine head?_tokenWays_point h hpoint (hlater.last_digit hpoint heager) ?_ slot
  refine head?_ways_tokenEnd (limits_exhaustive h) hending hlater.head? ?_ (hend _ rfl)
  rintro count hcount
  rw [Option.mem_def.mp hcount] at heager
  exact hlater.ways_setEnd_digit h heager.behind (hending.times count hcount).lt_ten _

/-! ## Chains -/

namespace PointChain

theorem follows_text {c : PointChain} (hfits : c.Fits g limits tokens) :
    Follows c.x.length c.text :=
  .point c.tail (fits_x hfits).1

/-- **From any point on, the first way is that of the eager chain.** -/
theorem head?_tokenWays (h : compile [.touch name g] limits = .ok grammar) (c : PointChain) :
    ∀ {start tokens offset sets : Nat} (slot : Slot), c.Fits g limits tokens →
      c.Ends g.EagerEnd → sets + 1 + c.laterSets.length ≤ limits.sequenceLength →
      (grammar.exhaustive.tokenWays start tokens ⟨offset, c.text⟩ slot sets).head? =
        some (c.trace start slot offset) := by
  have hlimits := limits_exhaustive h
  induction c with
  | last x y held times =>
    intro start tokens offset sets slot hfits heager hsets
    obtain ⟨hpoint, hending⟩ := hfits
    have hend (stop : Nat) : (grammar.exhaustive.ways (.setEnd start) ⟨stop, []⟩ sets).head? =
        some [.set start stop] := by
      rw [Search.ways_setEnd, if_neg (fun hmore => hmore.2 rfl), if_pos rfl]
      rfl
    have hfound := head?_tokenWays_end h hpoint hending .nothing heager slot fun stop
      (_ : stop = offset + _ + _) => hend stop
    rw [List.append_nil, List.append_nil] at hfound
    exact hfound
  | plus x y later ih =>
    intro start tokens offset sets slot hfits heager hsets
    obtain ⟨hpoint, hlater⟩ := hfits
    have hless : tokens + 1 < grammar.exhaustive.limits.setLength := by
      rw [hlimits]
      exact later.lt_setLength hlater
    refine head?_tokenWays_point h hpoint (.inr (.inl (undigited_cons (by decide) _))) ?_ slot
    rw [Search.ways_tokenEnd, if_pos ⟨hless, rfl⟩]
    refine head?_append_of_head? ?_ _
    rw [Cursor.next_cons]
    exact ih .additional hlater heager hsets
  | next x y held times later ih =>
    intro start tokens offset sets slot hfits heager hsets
    obtain ⟨hpoint, hending, hlater⟩ := hfits
    obtain ⟨hclosing, heager⟩ := heager
    rw [laterSets, List.length_cons] at hsets
    have hmore : sets + 1 < grammar.exhaustive.limits.sequenceLength := by
      rw [hlimits]
      omega
    refine head?_tokenWays_end h hpoint hending (follows_text hlater) hclosing slot ?_
    rintro stop rfl
    have hne : later.text ≠ [] := by
      rw [text]
      simp
    rw [Search.ways_setEnd, if_pos ⟨hmore, hne⟩, Search.ways_setStart]
    refine head?_map_of_head? (head?_append_of_head? ?_ _) _
    exact ih .leading hlater heager (by omega)

/-! ## What is found -/

variable {c : PointChain} {text : List Char}

/-- **The reading of an eager chain is found.** -/
theorem captures?_eq (h : compile [.touch name g] limits = .ok grammar) (hfits : c.Fits g limits 0)
    (heager : c.Ends g.EagerEnd) (hlength : c.reading.length ≤ limits.sequenceLength) :
    grammar.captures? c.text = some (Reading.captures 0 c.reading) := by
  have hsets : 0 + 1 + c.laterSets.length ≤ limits.sequenceLength := by
    rw [reading, List.length_cons] at hlength
    omega
  rw [captures?_eq_head? h, Search.derivations, Search.ways_setStart, captures_reading]
  show (grammar.exhaustive.tokenWays 0 0 ⟨0, c.text⟩ .leading 0).head? = _
  exact c.head?_tokenWays h .leading hfits heager hsets

/-- Eager chains of one text have one reading. -/
theorem reading_eq_of_eager (h : compile [.touch name g] limits = .ok grammar) {c' : PointChain}
    (hfits : c.Fits g limits 0) (hfits' : c'.Fits g limits 0) (heager : c.Ends g.EagerEnd)
    (heager' : c'.Ends g.EagerEnd) (hlength : c.reading.length ≤ limits.sequenceLength)
    (hlength' : c'.reading.length ≤ limits.sequenceLength) (htext : c.text = c'.text) :
    c.reading = c'.reading := by
  have hfound := captures?_eq h hfits heager hlength
  rw [htext, captures?_eq h hfits' heager' hlength'] at hfound
  exact (Reading.captures_injective 0 (Option.some.inj hfound)).symm

/-- **Whatever is found is the reading of an eager chain.** -/
theorem exists_eager_of_captures? (h : compile [.touch name g] limits = .ok grammar)
    {captures : List Capture} (hcaptures : grammar.captures? text = some captures) :
    ∃ c : PointChain, c.Fits g limits 0 ∧ c.Ends g.EagerEnd ∧
      Reads [.touch name g] limits text c.reading ∧ captures = Reading.captures 0 c.reading := by
  obtain ⟨sets, hreads, rfl⟩ := exists_reads_of_captures? h hcaptures
  obtain ⟨c, hfits, rfl⟩ := exists_of_valid hreads.ne_nil hreads.valid
  obtain ⟨c', hfits', hagain⟩ := exists_rereads c hfits
  have htext : text = c'.text := by
    rw [hagain.text, hreads.text, text_reading]
  have hlength : c'.reading.length ≤ limits.sequenceLength :=
    hagain.length_reading.trans_le hreads.length
  rw [htext, captures?_eq h hfits' hagain.eager hlength] at hcaptures
  have hsame := Reading.captures_injective 0 (Option.some.inj hcaptures)
  rw [← hsame] at hreads ⊢
  exact ⟨c', hfits', hagain.eager, hreads, rfl⟩

end PointChain

end ChatPad
