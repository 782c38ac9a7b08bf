import ChatPad.Proofs.Message.Reading
import ChatPad.Proofs.Search.Shortcuts

/-!
# The ways to match a text are the traces of its readings

The search goes through a message from one place to the next; a reading is a tree.  Here the two are
shown to agree, one step of the search at a time: `Point.Completes` says what part of a reading is
still to come at a point of the search, `completes_of_derives` finds it for each way, and
`derives_setStart` goes back.

* `derives_iff_exists_reading`: the ways to match a text are the traces of its readings.
-/

namespace ChatPad

/-! ## Single characters -/

theorem Cursor.next_cons (offset : Nat) (c : Char) (rest : List Char) :
    Cursor.next ⟨offset, c :: rest⟩ = ⟨offset + c.utf8Size, rest⟩ := rfl

theorem Limits.repeatDigit?_eq_some_iff {limits : Limits} {rest : List Char} {count : Nat} :
    limits.repeatDigit? rest = some count ↔
      limits.AllowsTimes count ∧ ∃ after, rest = Nat.digitChar count :: after := by
  cases rest with
  | nil => simp [repeatDigit?]
  | cons c rest =>
    rw [repeatDigit?]
    constructor
    · intro h
      split at h
      · rename_i hallowed
        obtain ⟨hmany, hdigit, hlow, hhigh⟩ := hallowed
        obtain rfl := Option.some.inj h
        exact ⟨⟨hmany, hlow, hhigh⟩, rest, by rw [Text.digitChar_digitValue hdigit]⟩
      · cases h
    · intro hright
      obtain ⟨⟨hmany, hlow, hhigh⟩, after, h⟩ := hright
      obtain ⟨rfl, _⟩ := List.cons.inj h
      have hten : count < 10 := by
        have : limits.largestRepeat ≤ 9 := Nat.min_le_right _ _
        omega
      rw [Text.digitValue_digitChar count hten]
      exact if_pos ⟨hmany, Text.isDigit_digitChar count hten, hlow, hhigh⟩

/-! ## Single tokens -/

variable {definitions : List Definition} {limits : Limits} {g : Grammar}

/-- The tokens that a search tries at a place are those that a reading can have there. -/
theorem mem_tokensAt_exhaustive_iff (h : Grammar.compile definitions limits = .ok g)
    {offset : Nat} {rest : List Char} {slot : Slot} {t : Capture × Cursor} :
    t ∈ g.exhaustive.tokensAt ⟨offset, rest⟩ slot ↔
      ∃ token : ReadToken, token.Valid definitions ∧ ∃ after, rest = token.word ++ after ∧
        t = (token.capture slot offset, ⟨offset + Text.byteLength token.word, after⟩) := by
  obtain ⟨_, _, _, rfl⟩ := Grammar.compile_eq_ok_iff.mp h
  rw [Search.mem_tokensAt_iff]
  constructor
  · intro hleft
    obtain ⟨a, ha, n, hn, hpos, rfl⟩ := hleft
    obtain ⟨d, hd, hda⟩ := Grammar.mem_alternativesOf_iff.mp ha
    obtain ⟨hle, hmatches⟩ := (Fragment.mem_ends_iff _ _ _).mp hn
    have hsplit : rest = rest.take n ++ rest.drop n := (List.take_append_drop n rest).symm
    refine ⟨⟨a.id, rest.take n⟩, ⟨?_, d, hd, ?_⟩, rest.drop n, hsplit, ?_⟩
    · intro hempty
      rcases List.take_eq_nil_iff.mp hempty with rfl | rfl
      · exact Nat.lt_irrefl 0 hpos
      · exact Nat.not_lt.mpr hle hpos
    · rw [hda] at hmatches
      exact hmatches
    · rw [Cursor.advance_eq]
      rfl
  · intro hright
    obtain ⟨⟨id, word⟩, ⟨hne, d, hd, hmatches⟩, after, rfl, rfl⟩ := hright
    refine ⟨⟨id, d.fragment, d.description⟩, Grammar.mem_alternativesOf_iff.mpr ⟨d, hd, rfl⟩,
      word.length, (Fragment.mem_ends_iff _ _ _).mpr ⟨?_, ?_⟩, List.length_pos_iff.mpr hne, ?_⟩
    · rw [List.length_append]
      exact Nat.le_add_right _ _
    · rw [List.take_left]
      exact hmatches
    · rw [Cursor.advance_eq, List.take_left, List.drop_left]
      rfl

/-! ## From a way to a reading -/

/-- What a way says of the message: the rest of the set that begins at `start`, and the sets after
it. -/
def Completes (definitions : List Definition) (limits : Limits) (start tokens : Nat)
    (here : Cursor) (sets : Nat) (trace : List Capture) (rest : SetRest) : Prop :=
  ∃ later : Reading, rest.Valid definitions limits tokens ∧
    (∀ set ∈ later, set.Valid definitions limits) ∧
    sets + 1 + later.length ≤ limits.sequenceLength ∧
    here.rest = rest.text ++ Reading.text later ∧
    trace = rest.captures start here.offset ++
      Reading.captures (here.offset + Text.byteLength rest.text) later

/-- What a way says of the message, at each point of the search. -/
def Point.Completes (definitions : List Definition) (limits : Limits) (here : Cursor) (sets : Nat)
    (trace : List Capture) : Point → Prop
  | setStart => ∃ later : Reading, later ≠ [] ∧ (∀ set ∈ later, set.Valid definitions limits) ∧
    sets + later.length ≤ limits.sequenceLength ∧ here.rest = Reading.text later ∧
    trace = Reading.captures here.offset later
  | tokenEnd start tokens => tokens ≤ limits.setLength →
    ∃ rest, ChatPad.Completes definitions limits start tokens here sets trace rest
  | holdEnd start =>
    ∃ times, ChatPad.Completes definitions limits start 0 here sets trace ⟨[], false, times⟩
  | setEnd start => ChatPad.Completes definitions limits start 0 here sets trace ⟨[], false, none⟩

namespace Completes

variable {start tokens offset sets count : Nat} {after : List Char} {trace : List Capture}
  {rest : SetRest} {token : ReadToken} {times : Option Nat}

/-- A further token, and what completes the message after it. -/
theorem another
    (h : Completes definitions limits start (tokens + 1)
      ⟨offset + 1 + Text.byteLength token.word, after⟩ sets trace rest)
    (hvalid : token.Valid definitions) :
    Completes definitions limits start tokens ⟨offset, '+' :: (token.word ++ after)⟩ sets
      (token.capture .additional (offset + 1) :: trace)
      ⟨token :: rest.more, rest.held, rest.times⟩ := by
  obtain ⟨later, hrest, hlater, hlength, htext, rfl⟩ := h
  have hafter : after = rest.text ++ Reading.text later := htext
  refine ⟨later, ⟨?_, ?_, hrest.held, hrest.times⟩, hlater, hlength, ?_, ?_⟩
  · intro t ht
    rcases List.mem_cons.mp ht with rfl | ht
    · exact hvalid
    · exact hrest.more t ht
  · have := hrest.length
    rw [List.length_cons]
    omega
  · show '+' :: (token.word ++ after) =
      SetRest.text ⟨token :: rest.more, _, _⟩ ++ Reading.text later
    rw [hafter, SetRest.text_cons, List.cons_append, List.append_assoc]
  · rw [SetRest.offset_text_cons]
    rfl

/-- A hold marker, and what completes the message after it. -/
theorem hold
    (h : Completes definitions limits start 0 ⟨offset + 1, after⟩ sets trace ⟨[], false, times⟩)
    (htokens : tokens ≤ limits.setLength) (hhold : limits.hold = true) :
    Completes definitions limits start tokens ⟨offset, '-' :: after⟩ sets (.hold offset :: trace)
      ⟨[], true, times⟩ := by
  obtain ⟨later, hrest, hlater, hlength, htext, rfl⟩ := h
  have hafter : after = SetRest.text ⟨[], false, times⟩ ++ Reading.text later := htext
  refine ⟨later, ⟨hrest.more, htokens, fun _ => hhold, hrest.times⟩, hlater, hlength, ?_, ?_⟩
  · show '-' :: after = SetRest.text ⟨[], true, times⟩ ++ Reading.text later
    rw [hafter]
    rfl
  · rw [SetRest.offset_text_hold]
    rfl

/-- No hold marker. -/
theorem noHold
    (h : Completes definitions limits start 0 ⟨offset, after⟩ sets trace ⟨[], false, times⟩)
    (htokens : tokens ≤ limits.setLength) :
    Completes definitions limits start tokens ⟨offset, after⟩ sets trace ⟨[], false, times⟩ := by
  obtain ⟨later, hrest, hlater⟩ := h
  exact ⟨later, ⟨hrest.more, htokens, hrest.held, hrest.times⟩, hlater⟩

/-- A repeat digit, and what completes the message after it. -/
theorem repeated
    (h : Completes definitions limits start 0 ⟨offset + 1, after⟩ sets trace ⟨[], false, none⟩)
    (hcount : limits.AllowsTimes count) :
    Completes definitions limits start 0 ⟨offset, Nat.digitChar count :: after⟩ sets
      (.times offset count :: trace) ⟨[], false, some count⟩ := by
  obtain ⟨later, hrest, hlater, hlength, htext, rfl⟩ := h
  have hafter : after = Reading.text later := htext
  refine ⟨later, ⟨hrest.more, hrest.length, hrest.held, ?_⟩, hlater, hlength, ?_, ?_⟩
  · intro other hother
    obtain rfl := Option.mem_some_iff.mp hother
    exact hcount
  · rw [hafter]
    rfl
  · show _ = _ ++ Reading.captures (offset + Text.byteLength (timesText (some count))) later
    rw [byteLength_timesText_some]
    rfl

/-- The end of a set, and the sets after it. -/
theorem setEnd {later : Reading} (hlater : ∀ set ∈ later, set.Valid definitions limits)
    (hlength : sets + 1 + later.length ≤ limits.sequenceLength) :
    Completes definitions limits start 0 ⟨offset, Reading.text later⟩ sets
      (.set start offset :: Reading.captures offset later) ⟨[], false, none⟩ :=
  ⟨later, ⟨by simp, by simp, by simp, by simp⟩, hlater, hlength, rfl, rfl⟩

/-- The first token of a set, and what completes the message after it. -/
theorem first
    (h : Completes definitions limits offset 1 ⟨offset + Text.byteLength token.word, after⟩ sets
      trace rest) (hvalid : token.Valid definitions) :
    Point.Completes definitions limits ⟨offset, token.word ++ after⟩ sets
      (token.capture .leading offset :: trace) .setStart := by
  obtain ⟨later, hrest, hlater, hlength, htext, rfl⟩ := h
  have hafter : after = rest.text ++ Reading.text later := htext
  refine ⟨⟨rest, token⟩ :: later, List.cons_ne_nil _ _, ?_, ?_, ?_, ?_⟩
  · intro set hset
    rcases List.mem_cons.mp hset with rfl | hset
    · exact ⟨hvalid, hrest⟩
    · exact hlater set hset
  · rw [List.length_cons]
    omega
  · show token.word ++ after = token.word ++ rest.text ++ Reading.text later
    rw [hafter, List.append_assoc]
  · rw [Reading.captures, ReadSet.text, Text.byteLength_append, ← Nat.add_assoc]
    rfl

end Completes

/-- **Each way is the trace of what it says of the message.** -/
theorem completes_of_derives (h : Grammar.compile definitions limits = .ok g) {p : Point}
    {here : Cursor} {sets : Nat} {trace : List Capture}
    (hderives : g.exhaustive.Derives p here sets trace) (hsets : sets < limits.sequenceLength) :
    p.Completes definitions limits here sets trace := by
  have hlimits := Grammar.limits_exhaustive h
  induction hderives with
  | @first here sets t trace ht _ ih =>
    obtain ⟨offset, characters⟩ := here
    obtain ⟨token, hvalid, after, rfl, rfl⟩ := (mem_tokensAt_exhaustive_iff h).mp ht
    obtain ⟨rest, hrest⟩ := ih hsets (Grammar.compile_eq_ok_iff.mp h).2.1
    exact Completes.first hrest hvalid
  | @another start tokens here sets t trace hless hplus ht _ ih =>
    obtain ⟨offset, characters⟩ := here
    obtain ⟨behind, rfl⟩ := List.head?_eq_some_iff.mp hplus
    obtain ⟨token, hvalid, after, hbehind, rfl⟩ := (mem_tokensAt_exhaustive_iff h).mp ht
    have hbehind' : behind = token.word ++ after := hbehind
    rw [hlimits] at hless
    intro _
    obtain ⟨rest, hrest⟩ := ih hsets hless
    rw [hbehind']
    exact ⟨_, Completes.another hrest hvalid⟩
  | @hold start tokens here sets trace hhold hminus _ ih =>
    obtain ⟨offset, characters⟩ := here
    obtain ⟨behind, rfl⟩ := List.head?_eq_some_iff.mp hminus
    rw [hlimits] at hhold
    intro htokens
    obtain ⟨times, htimes⟩ := ih hsets
    exact ⟨_, Completes.hold htimes htokens hhold⟩
  | noHold _ ih =>
    intro htokens
    obtain ⟨times, htimes⟩ := ih hsets
    exact ⟨_, Completes.noHold htimes htokens⟩
  | noTimes _ ih => exact ⟨none, ih hsets⟩
  | @times start count here sets trace hcount _ ih =>
    obtain ⟨offset, characters⟩ := here
    rw [hlimits] at hcount
    obtain ⟨hallowed, behind, rfl⟩ := Limits.repeatDigit?_eq_some_iff.mp hcount
    have hrest := ih hsets
    rw [Cursor.next_cons, utf8Size_digitChar] at hrest
    exact ⟨_, Completes.repeated hrest hallowed⟩
  | @nextSet start here sets trace hless hne _ ih =>
    obtain ⟨offset, characters⟩ := here
    rw [hlimits] at hless
    obtain ⟨later, _, hlater, hlength, rfl, rfl⟩ := ih hless
    exact Completes.setEnd hlater hlength
  | @done start here sets hempty =>
    obtain ⟨offset, characters⟩ := here
    subst hempty
    have hnone : ∀ set ∈ ([] : Reading), set.Valid definitions limits := by simp
    exact Completes.setEnd hnone hsets

/-! ## From a reading to a way -/

/-- The end of a set can be read if the sets after it can. -/
theorem derives_holdEnd {later : Reading} {sets : Nat} (hlimits : g.exhaustive.limits = limits)
    (hend : ∀ start offset, g.exhaustive.Derives (.setEnd start) ⟨offset, Reading.text later⟩ sets
      (.set start offset :: Reading.captures offset later))
    (start offset : Nat) (times : Option Nat) (htimes : ∀ count ∈ times, limits.AllowsTimes count) :
    g.exhaustive.Derives (.holdEnd start) ⟨offset, timesText times ++ Reading.text later⟩ sets
      (timesCaptures start offset times ++
        Reading.captures (offset + Text.byteLength (timesText times)) later) := by
  cases times with
  | none => exact .noTimes (hend start offset)
  | some count =>
    have hdigit : g.exhaustive.limits.repeatDigit? (Nat.digitChar count :: Reading.text later) =
        some count := by
      rw [hlimits]
      exact Limits.repeatDigit?_eq_some_iff.mpr ⟨htimes count rfl, _, rfl⟩
    rw [byteLength_timesText_some]
    refine .times hdigit ?_
    show g.exhaustive.Derives _
      (Cursor.next ⟨offset, Nat.digitChar count :: Reading.text later⟩) _ _
    rw [Cursor.next_cons, utf8Size_digitChar]
    exact hend start (offset + 1)

/-- The rest of a set can be read if the sets after it can. -/
theorem derives_tokenEnd (h : Grammar.compile definitions limits = .ok g) {later : Reading}
    {sets : Nat} (hend : ∀ start offset, g.exhaustive.Derives (.setEnd start)
      ⟨offset, Reading.text later⟩ sets (.set start offset :: Reading.captures offset later))
    (start : Nat) (held : Bool) (times : Option Nat) (more : List ReadToken) :
    ∀ tokens offset, SetRest.Valid definitions limits tokens ⟨more, held, times⟩ →
      g.exhaustive.Derives (.tokenEnd start tokens)
        ⟨offset, SetRest.text ⟨more, held, times⟩ ++ Reading.text later⟩ sets
        (SetRest.captures ⟨more, held, times⟩ start offset ++
          Reading.captures (offset + Text.byteLength (SetRest.text ⟨more, held, times⟩)) later) := by
  have hlimits := Grammar.limits_exhaustive h
  induction more with
  | nil =>
    intro tokens offset hvalid
    have hholdEnd := derives_holdEnd hlimits hend start
    cases held with
    | false => exact .noHold (hholdEnd offset times hvalid.times)
    | true =>
      refine .hold (by rw [hlimits]; exact hvalid.held rfl) rfl ?_
      rw [SetRest.offset_text_hold]
      exact hholdEnd (offset + 1) times hvalid.times
  | cons token more ih =>
    intro tokens offset hvalid
    have hlength := hvalid.length
    rw [List.length_cons] at hlength
    have hrest : SetRest.Valid definitions limits (tokens + 1) ⟨more, held, times⟩ :=
      ⟨fun t ht => hvalid.more t (List.mem_cons_of_mem _ ht), by show _ + more.length ≤ _; omega,
        hvalid.held, hvalid.times⟩
    have htoken : (token.capture .additional (offset + 1),
        ⟨offset + 1 + Text.byteLength token.word,
          SetRest.text ⟨more, held, times⟩ ++ Reading.text later⟩) ∈
        g.exhaustive.tokensAt ⟨offset + 1, token.word ++
          (SetRest.text ⟨more, held, times⟩ ++ Reading.text later)⟩ .additional :=
      (mem_tokensAt_exhaustive_iff h).mpr ⟨token, hvalid.more token List.mem_cons_self, _, rfl, rfl⟩
    have hless : tokens < g.exhaustive.limits.setLength := by
      rw [hlimits]
      omega
    rw [SetRest.offset_text_cons, SetRest.text_cons, List.cons_append, List.append_assoc]
    exact .another (t := (token.capture .additional (offset + 1), _)) hless rfl htoken
      (ih (tokens + 1) (offset + 1 + Text.byteLength token.word) hrest)

/-- A set can be read if the sets after it can. -/
theorem derives_set (h : Grammar.compile definitions limits = .ok g) {later : Reading}
    {sets : Nat} (hend : ∀ start offset, g.exhaustive.Derives (.setEnd start)
      ⟨offset, Reading.text later⟩ sets (.set start offset :: Reading.captures offset later))
    {set : ReadSet} (hset : set.Valid definitions limits) (offset : Nat) :
    g.exhaustive.Derives .setStart ⟨offset, Reading.text (set :: later)⟩ sets
      (Reading.captures offset (set :: later)) := by
  have htoken : (set.first.capture .leading offset,
      ⟨offset + Text.byteLength set.first.word, set.toSetRest.text ++ Reading.text later⟩) ∈
      g.exhaustive.tokensAt ⟨offset, set.first.word ++
        (set.toSetRest.text ++ Reading.text later)⟩ .leading :=
    (mem_tokensAt_exhaustive_iff h).mpr ⟨set.first, hset.first, _, rfl, rfl⟩
  have htext : Reading.text (set :: later) =
      set.first.word ++ (set.toSetRest.text ++ Reading.text later) :=
    List.append_assoc _ _ _
  rw [Reading.captures, ReadSet.text, Text.byteLength_append, ← Nat.add_assoc, htext]
  exact .first htoken (derives_tokenEnd h hend offset set.held set.times set.more 1
    (offset + Text.byteLength set.first.word) hset.rest)

theorem Reading.text_ne_nil {set : ReadSet} (hset : set.Valid definitions limits)
    (later : Reading) : Reading.text (set :: later) ≠ [] := by
  intro hempty
  have hset' : set.text = [] := (List.append_eq_nil_iff.mp hempty).1
  exact hset.first.ne_nil (List.append_eq_nil_iff.mp hset').1

/-- The sets of a reading can be read one after the other. -/
theorem derives_setStart (h : Grammar.compile definitions limits = .ok g) (later : Reading) :
    ∀ (set : ReadSet) (sets offset : Nat), set.Valid definitions limits →
      (∀ other ∈ later, other.Valid definitions limits) →
      sets + 1 + later.length ≤ limits.sequenceLength →
      g.exhaustive.Derives .setStart ⟨offset, Reading.text (set :: later)⟩ sets
        (Reading.captures offset (set :: later)) := by
  have hlimits := Grammar.limits_exhaustive h
  induction later with
  | nil =>
    intro set sets offset hset _ _
    exact derives_set h (fun _ _ => .done rfl) hset offset
  | cons next later ih =>
    intro set sets offset hset hlater hlength
    have hnext := hlater next List.mem_cons_self
    rw [List.length_cons] at hlength
    refine derives_set h (fun start place => .nextSet ?_ ?_ ?_) hset offset
    · rw [hlimits]
      omega
    · exact Reading.text_ne_nil hnext later
    · exact ih next (sets + 1) place hnext
        (fun other hother => hlater other (List.mem_cons_of_mem _ hother)) (by omega)

/-! ## Ways and readings -/

/-- **The ways to match a text are the traces of its readings.** -/
theorem derives_iff_exists_reading (h : Grammar.compile definitions limits = .ok g)
    {text : List Char} {trace : List Capture} :
    g.exhaustive.Derives .setStart ⟨0, text⟩ 0 trace ↔
      ∃ sets, Reads definitions limits text sets ∧ trace = Reading.captures 0 sets := by
  constructor
  · intro hderives
    obtain ⟨sets, hne, hvalid, hlength, htext, htrace⟩ :=
      completes_of_derives h hderives (Grammar.compile_eq_ok_iff.mp h).2.2.1
    rw [Nat.zero_add] at hlength
    exact ⟨sets, ⟨hne, hlength, hvalid, htext⟩, htrace⟩
  · intro hright
    obtain ⟨sets, ⟨hne, hlength, hvalid, rfl⟩, rfl⟩ := hright
    cases sets with
    | nil => exact absurd rfl hne
    | cons set later =>
      rw [List.length_cons] at hlength
      exact derives_setStart h later set 0 0 (hvalid set List.mem_cons_self)
        (fun other hother => hvalid other (List.mem_cons_of_mem _ hother)) (by omega)

theorem mem_derivations_iff (h : Grammar.compile definitions limits = .ok g)
    {text : List Char} {trace : List Capture} :
    trace ∈ g.exhaustive.derivations text ↔
      ∃ sets, Reads definitions limits text sets ∧ trace = Reading.captures 0 sets :=
  Search.mem_ways_iff.trans (derives_iff_exists_reading h)

end ChatPad
