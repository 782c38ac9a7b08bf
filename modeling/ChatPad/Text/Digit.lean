/-!
# Decimal digits

Numbers in messages are spelled with the ten digits of ASCII; digits of other scripts are ordinary
characters.
-/

namespace ChatPad.Text

/-- Whether a character is a decimal digit of ASCII. -/
def isDigit (c : Char) : Bool := '0' ≤ c && c ≤ '9'

/-- The value of a decimal digit. -/
def digitValue (c : Char) : Nat := c.toNat - '0'.toNat

/-- The value of a run of decimal digits. -/
def digitsValue (digits : List Char) : Nat :=
  digits.foldl (fun value c => 10 * value + digitValue c) 0

/-- The decimal digits of a number. -/
def decimalDigits (n : Nat) : List Char := Nat.toDigits 10 n

/-- The decimal text of a number. -/
def decimal (n : Nat) : String := String.ofList (decimalDigits n)

theorem isDigit_digitChar : ∀ n < 10, isDigit (Nat.digitChar n) = true := by decide

theorem digitValue_digitChar : ∀ n < 10, digitValue (Nat.digitChar n) = n := by decide

theorem digitChar_digitValue {c : Char} (h : isDigit c = true) :
    Nat.digitChar (digitValue c) = c := by
  have hofNat : ∀ n < 10, Nat.digitChar n = Char.ofNat (48 + n) := by decide
  simp only [isDigit, Bool.and_eq_true, decide_eq_true_eq, Char.le_def,
    UInt32.le_iff_toNat_le] at h
  have hlow : 48 ≤ c.toNat := h.1
  have hhigh : c.toNat ≤ 57 := h.2
  show Nat.digitChar (c.toNat - 48) = c
  rw [hofNat _ (by omega), Nat.add_sub_cancel' hlow, Char.ofNat_toNat]

end ChatPad.Text
