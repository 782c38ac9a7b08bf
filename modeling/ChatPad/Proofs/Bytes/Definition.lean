import ChatPad.Proofs.Bytes.Fragment
import ChatPad.Touch.Definition

/-!
# Definitions by byte offset

An analog input looks for its name at the front of its token, cuts the token there, and takes the
bytes that are left for a strength.  `Bytes.Entry` lists the kinds of definitions, and
`Bytes.Entry.read` reads a token as they do, with each cut and each digit an access that can fail.

* `Bytes.Entry.read_eq`: on no text does an access fail, and what is read is what the definition reads.

The text need not be one that the shape of the definition matches.
-/

namespace ChatPad.Bytes

/-- One entry of a vocabulary, by its kind. -/
inductive Entry where
  | button (name target : String) (keepsName : Bool)
  | analog (name target : String) (keepsName : Bool)
  | touch (name : String) (screen : Geometry)
  | drag (name : String) (screen : Geometry)
  | asTouch (base : Entry) (name : String) (screen : Geometry) (x y : Nat) (keepsName : Bool)
  /-- A definition of any shape, whose reader looks at nothing by its place. -/
  | custom (d : Definition)

/-- The definition that an entry stands for. -/
def Entry.definition : Entry → Definition
  | button name target keepsName => .button name target keepsName
  | analog name target keepsName => .analog name target keepsName
  | touch name screen => .touch name screen
  | drag name screen => .drag name screen
  | asTouch base name screen x y keepsName => base.definition.asTouch name screen x y keepsName
  | custom d => d

/-- The strength that bytes stand for: none for a full press, or a dot and a digit. -/
def suffixStrength : List UInt8 → Except Fault (Option Single)
  | [] => .ok (some .one)
  | [dot, digit] =>
    if dot = 46 ∧ 49 ≤ digit ∧ digit ≤ 57 then do
      let value ← digitOf digit
      .ok (some (Single.nearest false value 10))
    else .ok none
  | _ => .ok none

/-- Reads a token of an analog input. -/
def readAnalog (name target : String) (keepsName : Bool) (text : String) :
    Except Fault (Option Input) := do
  let ends ← endsAt (.literal name) text.toList 0
  match ends.head? with
  | none => .ok none
  | some stop => do
    let suffix ← textFrom text.toList stop
    let strength? ← suffixStrength (ofText suffix)
    .ok (strength?.bind fun strength =>
      (Input.analog? (if keepsName then name else target) target text strength).toOption)

/-- Reads a token. -/
def Entry.read : Entry → String → Except Fault (Option Input)
  | analog name target keepsName, text => readAnalog name target keepsName text
  | asTouch base name screen x y keepsName, text => do
    let inner ← base.read text
    .ok (inner.map fun inner =>
      ⟨if keepsName then inner.displayed else Definition.pointText (screen.transform x y), name, text,
        .touch (screen.transform x y).1 (screen.transform x y).2⟩)
  | entry, text => .ok (entry.definition.read text)

/-! ## Strengths -/

/-- Bytes that begin with one that is not of ASCII stand for no strength. -/
theorem suffixStrength_wide {byte : UInt8} (hbyte : 127 < byte.toNat) (later : List UInt8) :
    suffixStrength (byte :: later) = .ok none := by
  match later with
  | [] => rfl
  | [digit] =>
    refine if_neg fun h => ?_
    rw [h.1] at hbyte
    exact absurd hbyte (by decide)
  | _ :: _ :: _ => rfl

/-- Only nothing, or a dot and a digit other than zero, stand for a strength. -/
theorem suffixStrength_eq_none {suffix : List Char} (hne : suffix ≠ [])
    (hdigit : ∀ digit, suffix = ['.', digit] → ¬ ('1' ≤ digit ∧ digit ≤ '9')) :
    Definition.suffixStrength suffix = none := by
  unfold Definition.suffixStrength
  split
  · exact absurd rfl hne
  · exact if_neg (hdigit _ rfl)
  · rfl

/-- Two characters of ASCII stand for what their bytes stand for. -/
theorem suffixStrength_pair {c d : Char} {dot digit : UInt8} (hdot : dot.toNat = c.toNat)
    (hdigit : digit.toNat = d.toNat) :
    suffixStrength [dot, digit] = .ok (Definition.suffixStrength [c, d]) := by
  have hlow : 49 ≤ digit ↔ '1' ≤ d := by
    rw [UInt8.le_iff_toNat_le, hdigit]
    rfl
  have hhigh : digit ≤ 57 ↔ d ≤ '9' := by
    rw [UInt8.le_iff_toNat_le, hdigit]
    rfl
  by_cases hc : c = '.'
  · subst hc
    obtain rfl : dot = 46 := UInt8.toNat_inj.mp hdot
    rw [suffixStrength, Definition.suffixStrength]
    simp only [true_and, hlow, hhigh]
    split
    · rename_i hrange
      have hisDigit : isDigit digit = true := by
        rw [isDigit_iff, hdigit]
        exact ⟨Nat.le_of_succ_le hrange.1, hrange.2⟩
      rw [digitOf_eq_ok hisDigit, hdigit]
      rfl
    · rfl
  · have hnot : dot ≠ 46 := by
      rintro rfl
      exact hc (Char.toNat_inj.mp hdot.symm)
    rw [suffixStrength_eq_none (List.cons_ne_nil _ _) fun _ h => absurd (List.cons.inj h).1 hc]
    exact if_neg fun h => hnot h.1

/-- **The bytes after a name** stand for what the characters stand for, and no byte is taken for a
digit that is none. -/
theorem suffixStrength_ofText (suffix : List Char) :
    suffixStrength (ofText suffix) = .ok (Definition.suffixStrength suffix) := by
  cases suffix with
  | nil => rfl
  | cons c rest =>
    rw [ofText, List.flatMap_cons]
    rcases utf8EncodeChar_cases c with
      ⟨_, dot, hbytes, hdot⟩ | ⟨hwide, dot, next, later, hbytes, hdot⟩
    · rw [hbytes, List.singleton_append]
      cases rest with
      | nil =>
        rw [suffixStrength_eq_none (List.cons_ne_nil _ _) fun _ h =>
          absurd (List.cons.inj h).2.symm (List.cons_ne_nil _ _)]
        rfl
      | cons d rest =>
        rw [List.flatMap_cons]
        -- a digit of several bytes makes three bytes at least, which are no strength
        rcases utf8EncodeChar_cases d with
          ⟨_, digit, hbytes, hdigit⟩ | ⟨hwide, digit, next, later, hbytes, _⟩
        · rw [hbytes, List.singleton_append]
          cases rest with
          | nil => exact suffixStrength_pair hdot hdigit
          | cons e rest =>
            obtain ⟨byte, later, hbytes, _⟩ := exists_utf8EncodeChar e
            rw [suffixStrength_eq_none (List.cons_ne_nil _ _) fun _ h =>
              absurd (List.cons.inj (List.cons.inj h).2).2 (List.cons_ne_nil _ _), List.flatMap_cons,
              hbytes]
            rfl
        · rw [suffixStrength_eq_none (List.cons_ne_nil _ _), hbytes]
          · rfl
          · rintro digit h ⟨_, hhigh⟩
            obtain rfl := (List.cons.inj (List.cons.inj h).2).1
            have : d.toNat ≤ 57 := hhigh
            omega
    · rw [hbytes, List.cons_append, suffixStrength_wide hdot,
        suffixStrength_eq_none (List.cons_ne_nil _ _)]
      intro digit h
      obtain rfl := (List.cons.inj h).1
      exact absurd hwide (by decide)

/-! ## Reading -/

/-- A name ends at one place at most, and cutting the text there leaves the characters after it. -/
theorem readAnalog_eq (name target : String) (keepsName : Bool) (text : String) :
    readAnalog name target keepsName text =
      .ok ((Definition.analog name target keepsName).read text) := by
  have hends : endsAt (.literal name) text.toList 0 = .ok _ :=
    endsAt_append (.literal name) [] text.toList
  rw [readAnalog, hends, Fragment.ends]
  by_cases hbegins : Fragment.beginsWith name.toList text.toList = true
  · have hcut : textFrom text.toList (placeAfter [] text.toList name.toList.length) =
        .ok (text.toList.drop name.toList.length) := by
      have hcut := textFrom_append (text.toList.take name.toList.length)
        (text.toList.drop name.toList.length)
      rwa [List.take_append_drop] at hcut
    rw [if_pos hbegins]
    show textFrom text.toList (placeAfter [] text.toList name.toList.length) >>= _ = _
    rw [hcut]
    show suffixStrength (ofText (text.toList.drop name.toList.length)) >>= _ = _
    rw [suffixStrength_ofText]
    show _ = Except.ok (guard (Fragment.beginsWith name.toList text.toList = true) >>= _)
    rw [guard, if_pos hbegins]
    rfl
  · rw [if_neg hbegins]
    show _ = Except.ok (guard (Fragment.beginsWith name.toList text.toList = true) >>= _)
    rw [guard, if_neg hbegins]
    rfl

/-- **On no text does an access fail**, and what is read is what the definition reads. -/
theorem Entry.read_eq (entry : Entry) (text : String) :
    entry.read text = .ok (entry.definition.read text) := by
  induction entry with
  | button | touch | drag | custom => rfl
  | analog name target keepsName => exact readAnalog_eq name target keepsName text
  | asTouch base name screen x y keepsName ih =>
    rw [Entry.read, ih]
    show Except.ok (Option.map _ (base.definition.read text)) =
      Except.ok ((base.definition.read text).bind _)
    cases base.definition.read text <;> rfl

end ChatPad.Bytes
