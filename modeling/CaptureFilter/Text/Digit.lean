/-!
# Digits and their values

Rows of decimal and hexadecimal ASCII digits: the numbers they denote, and the rows that numbers are
written with.
Spec guidance: `SPEC_FULL.md` §4.1 (`_is_number`).
-/

namespace CaptureFilter.Text

/-- Whether a character is a hexadecimal digit, in either case. -/
def isHexDigit (c : Char) : Bool :=
  c.isDigit || ('a' ≤ c && c ≤ 'f') || ('A' ≤ c && c ≤ 'F')

/-- The value of a hexadecimal digit; other characters count as zero. -/
def hexValue (c : Char) : Nat :=
  if c.isDigit then c.toNat - 48
  else if 'a' ≤ c ∧ c ≤ 'f' then c.toNat - 87
  else if 'A' ≤ c ∧ c ≤ 'F' then c.toNat - 55
  else 0

/-- The number that a row of hexadecimal digits denotes. -/
def ofHexDigits (digits : List Char) : Nat := digits.foldl (fun n c ↦ 16 * n + hexValue c) 0

/-- Whether a text is a row of ASCII digits, at least one. -/
def isNumber (s : List Char) : Bool := !s.isEmpty && s.all Char.isDigit

/-- A number in decimal digits. -/
def decimal (n : Nat) : String := String.ofList (Nat.toDigits 10 n)

/-- A number in lower-case hexadecimal digits, with zeros in front up to `width` digits. -/
def hexDigits (width n : Nat) : List Char := (Nat.toDigits 16 n).leftpad width '0'

/-- A whole number in decimal digits, with a minus sign in front of a negative one. -/
def signedDecimal : Int → String
  | .ofNat n => decimal n
  | .negSucc n => "-" ++ decimal (n + 1)

/-- A row of characters without the line feed that may end it. -/
def dropFinalLineFeed (s : List Char) : List Char :=
  if s.getLast? = some '\n' then s.dropLast else s

/-- The decimal digits of a number denote it. -/
theorem ofDigitChars_decimal (n : Nat) : Nat.ofDigitChars 10 (decimal n).toList 0 = n := by
  simp [decimal, Nat.ofDigitChars_toDigits]

/-- A number is written with decimal digits only. -/
theorem isDigit_of_mem_decimal {n : Nat} {c : Char} (h : c ∈ (decimal n).toList) :
    c.isDigit = true := by
  rw [decimal, String.toList_ofList] at h
  exact Nat.isDigit_of_mem_toDigits (by decide) (by decide) h

private theorem hexValue_digitChar : ∀ n < 16, hexValue n.digitChar = n := by decide

private theorem ofHexDigits_toDigits (n : Nat) : ofHexDigits (Nat.toDigits 16 n) = n := by
  have hlast (digits : List Char) (c : Char) :
      ofHexDigits (digits ++ [c]) = 16 * ofHexDigits digits + hexValue c := by
    simp [ofHexDigits, List.foldl_append]
  induction n using Nat.strongRecOn with
  | ind n ih =>
    rw [Nat.toDigits_eq_if (by decide)]
    split
    · next hn => simp [ofHexDigits, hexValue_digitChar n hn]
    · next hn =>
      rw [hlast, ih (n / 16) (Nat.div_lt_self (by omega) (by decide)),
        hexValue_digitChar (n % 16) (Nat.mod_lt n (by decide))]
      omega

/-- The hexadecimal digits of a number denote it. -/
theorem ofHexDigits_hexDigits (width n : Nat) : ofHexDigits (hexDigits width n) = n := by
  have hzeros (count : Nat) (digits : List Char) :
      ofHexDigits (List.replicate count '0' ++ digits) = ofHexDigits digits := by
    induction count with
    | zero => rfl
    | succ count ih => exact ih
  rw [hexDigits, List.leftpad, hzeros, ofHexDigits_toDigits]

end CaptureFilter.Text
