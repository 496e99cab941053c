import CaptureFilter.Text.Blank
import CaptureFilter.Text.Cut
import CaptureFilter.Text.Digit
import CaptureFilter.Text.Numeral
import CaptureFilter.Validation

/-!
# Whole numbers in settings

A whole number may have blanks around it, a plus sign or zeros in front, single underscores between
its characters, and a point with nothing but zeros behind it. A minus sign may have zeros on either
side.
Spec guidance: `SPEC_FULL.md` §A (`port`).
-/

namespace CaptureFilter.WholeNumber

open Text Validation

/-- Whether a character is a blank around a number; separators of records are none. -/
def isBlankAround (c : Char) : Bool := isBlank c && !(0x1C ≤ c.toNat && c.toNat ≤ 0x1F)

/-- A text without the blanks around it. -/
def trimmed (s : List Char) : List Char :=
  dropEndWhile isBlankAround (s.dropWhile isBlankAround)

/-- A text without the plus sign in front, which no minus sign may follow. -/
def dropPlus? : List Char → Option (List Char)
  | '+' :: '-' :: _ => none
  | '+' :: rest => some rest
  | s => some s

/-- What follows zeros and underscores, the last of which is kept where no number follows it. -/
def afterZeros? (last : Char) : List Char → Option (List Char)
  | [] => some [last]
  | c :: rest =>
    if c = '0' || c = '_' then afterZeros? c rest
    else if c = '.' then some (last :: c :: rest)
    else if c = '-' || c.isDigit then some (c :: rest)
    else none

/-- A text without the zeros in front. -/
def dropZeros? : List Char → Option (List Char)
  | [] => none
  | c :: rest =>
    if c = '0' then afterZeros? c rest
    else if c = '-' || c.isDigit then some (c :: rest)
    else none

/-- A text without a point and the zeros behind it, of which there must be one. -/
def dropPoint (s : List Char) : List Char :=
  match cut '.' s with
  | (whole, some part) => if !part.isEmpty && part.all (· = '0') then whole else s
  | (_, none) => s

/-- A text without underscores, if each of them stands alone and between characters. -/
def dropUnderscores (s : List Char) : List Char :=
  if s.head? = some '_' || s.getLast? = some '_' || occurs ['_', '_'] s then s
  else s.filter (· ≠ '_')

/-- The number of a row of digits. -/
def unsigned? (s : List Char) : Option Nat :=
  if isNumber s then some (Nat.ofDigitChars 10 s 0) else none

/-- The number of a row of digits, with a minus sign perhaps. -/
def signed? : List Char → Option Int
  | '-' :: rest => (unsigned? rest).map fun n ↦ -(n : Int)
  | s => (unsigned? s).map fun n ↦ (n : Int)

/-- The whole number that a text denotes. -/
def read? (s : List Char) : Option Int := do
  let s ← dropPlus? (trimmed s)
  let s ← dropZeros? s
  signed? (dropUnderscores (dropPoint s))

/-- A whole number. A text that is longer than any number may be is refused unread. -/
def check (s : String) : Checked Int :=
  if Numeral.maxDigits < s.utf8ByteSize then reject .oversizedInt
  else (read? s.toList).elim (reject .unreadableInt) .ok

end CaptureFilter.WholeNumber
