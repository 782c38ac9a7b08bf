import ChatPad.Proofs.Text.Slice
import ChatPad.Text.Digit

/-!
# Access by byte offset

A program that keeps its place in a message as a byte offset can go wrong where one that keeps the
rest of the message cannot: it can cut inside a character or past the end, look up a number that
nothing has, or take a byte for a digit that is none.  Here such accesses fail with a `Fault`, and
there is one lemma for each that says when it does not.

The bytes of a text are those of its UTF-8 form.  A byte that begins a character is the character
itself if that is of ASCII, and else it is at least 128, so looking at bytes finds the digits that
looking at characters finds.
-/

namespace ChatPad

/-- Why an access fails. -/
inductive Fault where
  /-- A text is cut where no character begins, or past its end. -/
  | cut (start stop : Nat)
  /-- The bytes from an offset past the end are asked for. -/
  | offset (offset : Nat)
  /-- No entry of a list has this number. -/
  | number (number : Nat)
  /-- The value of a byte is asked for that is no digit. -/
  | digit (byte : UInt8)
  /-- A search goes on for more rounds than it was given. -/
  | rounds
deriving DecidableEq, Repr

namespace Bytes

/-! ## Accesses -/

/-- The text from an offset on. -/
def textFrom (text : List Char) (offset : Nat) : Except Fault (List Char) :=
  match Text.after? text offset with
  | some rest => .ok rest
  | none => .error (.cut offset (Text.byteLength text))

/-- The text between two offsets. -/
def textBetween (text : List Char) (start stop : Nat) : Except Fault (List Char) :=
  match Text.slice? text start stop with
  | some word => .ok word
  | none => .error (.cut start stop)

/-- The bytes of a text. -/
def ofText (text : List Char) : List UInt8 := text.flatMap String.utf8EncodeChar

/-- The bytes of a text from an offset on. -/
def bytesFrom (text : List Char) (offset : Nat) : Except Fault (List UInt8) :=
  if offset ≤ (ofText text).length then .ok ((ofText text).drop offset) else .error (.offset offset)

/-- The byte at an offset, if there is one.  This never fails. -/
def byteAt? (text : List Char) (offset : Nat) : Option UInt8 := (ofText text)[offset]?

/-- Whether a byte is a decimal digit of ASCII. -/
def isDigit (byte : UInt8) : Bool := 48 ≤ byte && byte ≤ 57

/-- The value of a digit. -/
def digitOf (byte : UInt8) : Except Fault Nat :=
  if isDigit byte then .ok (byte.toNat - 48) else .error (.digit byte)

/-- The entry of a list with a number. -/
def entryAt {α : Type} (entries : List α) (number : Nat) : Except Fault α :=
  match entries[number]? with
  | some entry => .ok entry
  | none => .error (.number number)

/-! ## Programs -/

section Programs

variable {m : Type → Type} [Monad m] {α β : Type}

theorem ite_eq_liftM {p : Prop} [Decidable p] {x y : ExceptT Fault m α} {r s : m α}
    (hx : x = liftM r) (hy : y = liftM s) :
    (if p then x else y) = liftM (if p then r else s) := by
  by_cases hp : p
  · rw [if_pos hp, if_pos hp, hx]
  · rw [if_neg hp, if_neg hp, hy]

variable [LawfulMonad m]

/-- A program that makes accesses goes on as one that makes none, if no access fails. -/
theorem bind_eq_liftM {x : ExceptT Fault m α} {r : m α} {f : α → ExceptT Fault m β} {g : α → m β}
    (hx : x = liftM r) (hf : ∀ a, f a = liftM (g a)) : x >>= f = liftM (r >>= g) := by
  rw [hx, liftM_bind]
  exact congrArg _ (funext hf)

/-- An access that does not fail does nothing else. -/
theorem bind_access {access : Except Fault α} {a : α} (h : access = .ok a)
    (f : α → ExceptT Fault m β) : (liftM access : ExceptT Fault m α) >>= f = f a := by
  have hpure : (liftM access : ExceptT Fault m α) = pure a := by
    rw [h]
    exact liftM_pure a
  rw [hpure, pure_bind]

/-- A list is gone through without failing, if none of its entries fails. -/
theorem mapM_eq_ok {f : α → Except Fault β} {g : α → β} {l : List α}
    (h : ∀ a ∈ l, f a = .ok (g a)) : l.mapM f = .ok (l.map g) := by
  induction l with
  | nil => rfl
  | cons a l ih =>
    obtain ⟨ha, hl⟩ := List.forall_mem_cons.mp h
    rw [List.mapM_cons, ha, ih hl]
    rfl

end Programs

/-! ## Accesses that do not fail -/

variable {text before rest : List Char}

theorem textFrom_append (before rest : List Char) :
    textFrom (before ++ rest) (Text.byteLength before) = .ok rest := by
  rw [textFrom, Text.after?_eq_some_iff.mpr ⟨before, rfl, rfl⟩]

theorem textBetween_eq_ok_iff {word : List Char} {start stop : Nat} :
    textBetween text start stop = .ok word ↔ Text.slice? text start stop = some word := by
  rw [textBetween]
  cases Text.slice? text start stop <;> simp

theorem entryAt_eq_ok_iff {α : Type} {entries : List α} {number : Nat} {entry : α} :
    entryAt entries number = .ok entry ↔ entries[number]? = some entry := by
  rw [entryAt]
  cases entries[number]? <;> simp

theorem ofText_append (a b : List Char) : ofText (a ++ b) = ofText a ++ ofText b :=
  List.flatMap_append

theorem length_ofText (text : List Char) : (ofText text).length = Text.byteLength text := by
  induction text with
  | nil => rfl
  | cons c text ih =>
    rw [ofText, List.flatMap_cons, List.length_append, String.length_utf8EncodeChar, ← ofText, ih]
    rfl

theorem bytesFrom_append (before rest : List Char) :
    bytesFrom (before ++ rest) (Text.byteLength before) = .ok (ofText rest) := by
  rw [bytesFrom, ofText_append, ← length_ofText, if_pos, List.drop_left]
  rw [List.length_append]
  exact Nat.le_add_right _ _

theorem byteAt?_append (before rest : List Char) :
    byteAt? (before ++ rest) (Text.byteLength before) = (ofText rest).head? := by
  rw [byteAt?, ofText_append, ← length_ofText, List.getElem?_append_right (Nat.le_refl _),
    Nat.sub_self, List.head?_eq_getElem?]

/-! ## Digits -/

theorem isDigit_iff (byte : UInt8) : isDigit byte = true ↔ 48 ≤ byte.toNat ∧ byte.toNat ≤ 57 := by
  rw [isDigit, Bool.and_eq_true, decide_eq_true_eq, decide_eq_true_eq, UInt8.le_iff_toNat_le,
    UInt8.le_iff_toNat_le]
  rfl

theorem textIsDigit_iff (c : Char) : Text.isDigit c = true ↔ 48 ≤ c.toNat ∧ c.toNat ≤ 57 := by
  rw [Text.isDigit, Bool.and_eq_true, decide_eq_true_eq, decide_eq_true_eq, Char.le_def, Char.le_def,
    UInt32.le_iff_toNat_le, UInt32.le_iff_toNat_le]
  rfl

theorem digitOf_eq_ok {byte : UInt8} (h : isDigit byte = true) :
    digitOf byte = .ok (byte.toNat - 48) :=
  if_pos h

/-- **A character of ASCII is its only byte**, and the bytes of any other character, of which there are
several, begin with one that is not of ASCII. -/
theorem utf8EncodeChar_cases (c : Char) :
    (c.toNat ≤ 127 ∧ ∃ byte, String.utf8EncodeChar c = [byte] ∧ byte.toNat = c.toNat) ∨
    (127 < c.toNat ∧ ∃ byte next later, String.utf8EncodeChar c = byte :: next :: later ∧
      127 < byte.toNat) := by
  by_cases hone : c.toNat ≤ 127
  · refine .inl ⟨hone, UInt8.ofNat c.toNat, if_pos hone, ?_⟩
    rw [UInt8.toNat_ofNat']
    omega
  · refine .inr ⟨Nat.lt_of_not_le hone, ?_⟩
    have hlead : ∀ n, 192 ≤ n → n < 256 → 127 < (UInt8.ofNat n).toNat := by
      intro n hlow hhigh
      rw [UInt8.toNat_ofNat']
      omega
    rw [String.utf8EncodeChar]
    show ∃ byte next later, (if c.toNat ≤ 127 then _ else _) = byte :: next :: later ∧ _
    rw [if_neg hone]
    split
    · exact ⟨_, _, _, rfl, hlead _ (by omega) (by omega)⟩
    · split
      · exact ⟨_, _, _, rfl, hlead _ (by omega) (by omega)⟩
      · exact ⟨_, _, _, rfl, hlead _ (by omega) (by omega)⟩

/-- **The first byte of a character** is a digit exactly if the character is one, and then the
character has no other bytes. -/
theorem exists_utf8EncodeChar (c : Char) : ∃ byte later, String.utf8EncodeChar c = byte :: later ∧
    isDigit byte = Text.isDigit c ∧
    (Text.isDigit c = true → later = [] ∧ byte.toNat = c.toNat) := by
  rcases utf8EncodeChar_cases c with
    ⟨_, byte, hbytes, hvalue⟩ | ⟨hwide, byte, next, later, hbytes, hbyte⟩
  · refine ⟨byte, [], hbytes, ?_, fun _ => ⟨rfl, hvalue⟩⟩
    rw [Bool.eq_iff_iff, isDigit_iff, textIsDigit_iff, hvalue]
  · have hnot : ¬ Text.isDigit c = true := by
      rw [textIsDigit_iff]
      omega
    have hnotByte : ¬ isDigit byte = true := by
      rw [isDigit_iff]
      omega
    exact ⟨byte, next :: later, hbytes,
      (Bool.eq_false_iff.mpr hnotByte).trans (Bool.eq_false_iff.mpr hnot).symm,
      fun h => absurd h hnot⟩

theorem utf8Size_of_isDigit {c : Char} (h : Text.isDigit c = true) : c.utf8Size = 1 := by
  obtain ⟨byte, later, hbytes, _, hone⟩ := exists_utf8EncodeChar c
  obtain ⟨rfl, _⟩ := hone h
  rw [← String.length_utf8EncodeChar, hbytes, List.length_singleton]

theorem byteLength_of_digits {word : List Char} (h : ∀ c ∈ word, Text.isDigit c = true) :
    Text.byteLength word = word.length := by
  induction word with
  | nil => rfl
  | cons c word ih =>
    obtain ⟨hc, hword⟩ := List.forall_mem_cons.mp h
    rw [Text.byteLength, utf8Size_of_isDigit hc, ih hword, List.length_cons, Nat.add_comm]

/-- A run of digits is found at its length, whether it is looked for in the bytes or in the
characters. -/
theorem length_takeWhile_ofText (max : Nat) (text : List Char) :
    (((ofText text).take max).takeWhile isDigit).length =
      ((text.take max).takeWhile Text.isDigit).length := by
  induction text generalizing max with
  | nil => rw [ofText, List.flatMap_nil, List.take_nil, List.take_nil, List.takeWhile_nil,
      List.takeWhile_nil, List.length_nil, List.length_nil]
  | cons c text ih =>
    cases max with
    | zero => rfl
    | succ max =>
      obtain ⟨byte, later, hbytes, hdigit, hone⟩ := exists_utf8EncodeChar c
      rw [ofText, List.flatMap_cons, hbytes, List.cons_append, List.take_succ_cons,
        List.take_succ_cons, List.takeWhile_cons, List.takeWhile_cons, hdigit, ← ofText]
      cases hc : Text.isDigit c with
      | false => rfl
      | true =>
        obtain ⟨rfl, _⟩ := hone hc
        rw [List.nil_append, if_pos rfl, if_pos rfl, List.length_cons, List.length_cons, ih]

theorem eq_nil_of_head?_ofText (h : (ofText text).head? = none) : text = [] := by
  cases text with
  | nil => rfl
  | cons c rest =>
    obtain ⟨byte, later, hbytes, _⟩ := exists_utf8EncodeChar c
    rw [ofText, List.flatMap_cons, hbytes] at h
    cases h

/-- What the first byte of a text says about digits is what its first character says. -/
theorem head?_ofText (text : List Char) (byte : UInt8) (h : (ofText text).head? = some byte) :
    ∃ c rest, text = c :: rest ∧ isDigit byte = Text.isDigit c ∧
      (Text.isDigit c = true → byte.toNat = c.toNat) := by
  cases text with
  | nil => cases h
  | cons c rest =>
    obtain ⟨first, later, hbytes, hdigit, hone⟩ := exists_utf8EncodeChar c
    rw [ofText, List.flatMap_cons, hbytes] at h
    obtain rfl := Option.some.inj h
    exact ⟨c, rest, rfl, hdigit, fun hc => (hone hc).2⟩

end Bytes

end ChatPad
