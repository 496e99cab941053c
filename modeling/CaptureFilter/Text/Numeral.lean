import CaptureFilter.Text.Quoted
import CaptureFilter.Text.DigitTable

/-!
# Decimal numerals

Decimal numerals in the digits of any script, read up to a fixed number of digits. A longer row of
digits is refused, not truncated, and so is a row that holds a digit of no decimal system. A number
with more digits than are read is not written either.
Spec guidance: `SPEC_FULL.md` §4.1 (`_parse_section`, `_compile_vlan`, `_compile_port`) and §6
(`from_lines`).
-/

namespace CaptureFilter.Text.Numeral

/-- The most digits that a numeral may have. -/
def maxDigits : Nat := 4300

/-- Why a row of digits denotes no number, or a number has no row of digits. -/
inductive Error where
  /-- There are more digits than a numeral may have. -/
  | tooManyDigits (count : Nat)
  /-- Some character is a digit of no decimal system. -/
  | notDecimal (text : String)
  /-- The numeral of a number would have more digits than it may. -/
  | unwritable
  deriving DecidableEq, Repr

/-- The wording of an error. -/
def Error.message : Error → String
  | .tooManyDigits count => exceeded ++ ": value has " ++ decimal count ++ " digits" ++ remedy
  | .notDecimal text => "invalid literal for int() with base 10: " ++ quoted text
  | .unwritable => exceeded ++ remedy
where
  /-- That there are too many digits. -/
  exceeded : String :=
    "Exceeds the limit (" ++ decimal maxDigits ++ " digits) for integer string conversion"
  /-- What can be done about it. -/
  remedy : String := "; use sys.set_int_max_str_digits() to increase the limit"

/-- The value of a decimal digit of any script. -/
def digit? (c : Char) : Option Nat :=
  if c.isDigit then some (c.toNat - 48)
  else
    (decimalZeros.find? fun first ↦ first ≤ c.toNat && c.toNat < first + 10).map
      fun first ↦ c.toNat - first

/-- Whether a character is a digit of any kind. -/
def isAnyDigit (c : Char) : Bool := (digit? c).isSome || inRanges looseDigitRanges c.toNat

/-- An ASCII digit has its usual value. -/
theorem digit?_of_isDigit {c : Char} (h : c.isDigit = true) : digit? c = some (c.toNat - 48) := by
  simp [digit?, h]

/-- The number that a row of decimal digits denotes; the digits in front of the first other
character are counted before that character is looked at. -/
def read (s : List Char) : Except Error Nat :=
  let digits := s.takeWhile (fun c ↦ (digit? c).isSome)
  if maxDigits < digits.length then .error (.tooManyDigits digits.length)
  else if digits.length < s.length then .error (.notDecimal (String.ofList s))
  else .ok (s.foldl (fun n c ↦ 10 * n + (digit? c).getD 0) 0)

/-- The numeral of a number, unless it would have too many digits. The sign is not counted. -/
def write (n : Int) : Except Error String :=
  if maxDigits < (Nat.toDigits 10 n.natAbs).length then .error .unwritable
  else .ok (signedDecimal n)

/-- The least number whose numeral would have too many digits. -/
def leastUnwritable : Nat := Nat.pow 10 maxDigits

/-- A number whose numeral would have too many digits. -/
def Unwritable (n : Int) : Prop := leastUnwritable ≤ n.natAbs

private theorem maxDigits_lt_iff {n : Int} :
    maxDigits < (Nat.toDigits 10 n.natAbs).length ↔ Unwritable n := by
  rw [← Nat.not_le, Nat.length_toDigits_le_iff (by decide) (by decide), Nat.not_lt, Unwritable,
    leastUnwritable, Nat.pow_eq]

/-- Exactly a number of too many digits is not written. -/
theorem write_eq_error_iff {n : Int} {e : Error} :
    write n = .error e ↔ Unwritable n ∧ e = .unwritable := by
  rw [← maxDigits_lt_iff, write]
  split
  · next h => simp [h, eq_comm]
  · next h => simp [h]

/-- A number of few enough digits is written. -/
theorem write_of_not_unwritable {n : Int} (h : ¬ Unwritable n) :
    write n = .ok (signedDecimal n) := by
  rw [← maxDigits_lt_iff] at h
  rw [write, if_neg h]

end CaptureFilter.Text.Numeral
