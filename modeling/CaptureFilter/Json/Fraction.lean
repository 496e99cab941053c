/-!
# Fractions

Numbers with a point or an exponent. They are kept as floating-point numbers of sixty-four bits: the
nearest to the decimal fraction that was sent, or infinity where that is too great. Messages show
the fewest digits from which the same number would be kept.
Spec guidance: `SPEC_FULL.md` §7 (`InvalidAttribute` and the value it carries).
-/

namespace CaptureFilter.Json

/-- The decimal fraction `digits · 10 ^ exponent`, or its negative. -/
structure Fraction where
  /-- Whether there is a minus sign. -/
  negative : Bool
  /-- All digits read as one number. -/
  digits : Nat
  /-- The power of ten that the digits are counted in. -/
  exponent : Int
  deriving DecidableEq, Repr

/-- The size `mantissa · 2 ^ exponent` of a floating-point number. -/
structure Binary64 where
  /-- A whole number of at most fifty-three bits. -/
  mantissa : Nat
  /-- The power of two that the mantissa is counted in. -/
  exponent : Int
  deriving DecidableEq, Repr

namespace Binary64

/-- The number of bits of a mantissa. -/
def precision : Nat := 53

/-- The least exponent, at which mantissas may have fewer bits. -/
def leastExponent : Int := -1074

/-- The greatest exponent. -/
def greatestExponent : Int := 971

/-- The quotient `n · base ^ e / m` as a pair of whole numbers. -/
def scaled (n m base : Nat) (e : Int) : Nat × Nat :=
  (n * base.pow e.toNat, m * base.pow (-e).toNat)

/-- The whole number nearest to a quotient, the even one of two that are equally near. -/
def nearest (n m : Nat) : Nat :=
  let floor := n / m
  let rest := 2 * (n % m)
  if m < rest ∨ (rest = m ∧ floor % 2 = 1) then floor + 1 else floor

/-- The greatest power of two that a quotient reaches. -/
def magnitude (n m : Nat) : Int :=
  let guess : Int := n.log2 - m.log2
  let (power, one) := scaled m n 2 guess
  if power ≤ one then guess else guess - 1

/-- The floating-point number nearest to a quotient, unless it is infinite. -/
def ofQuotient? (n m : Nat) : Option Binary64 :=
  let exponent := max leastExponent (magnitude n m - (precision - 1))
  let (n, m) := scaled n m 2 (-exponent)
  let mantissa := nearest n m
  -- rounding up may have carried into one more bit
  let (mantissa, exponent) :=
    if mantissa = Nat.pow 2 precision then (Nat.pow 2 (precision - 1), exponent + 1)
    else (mantissa, exponent)
  if greatestExponent < exponent then none else some ⟨mantissa, exponent⟩

/-- The floating-point number nearest to `digits · 10 ^ exponent`, unless it is infinite. Where the
number of digits alone decides, no power of ten is computed. -/
def ofDecimal? (digits : Nat) (exponent : Int) : Option Binary64 :=
  let size : Int := (Nat.toDigits 10 digits).length + exponent
  if digits = 0 ∨ size < -330 then some ⟨0, leastExponent⟩
  else if 310 < size then none
  else
    let (n, m) := scaled digits 1 10 exponent
    ofQuotient? n m

/-- The whole number that a floating-point number equals, if it equals one. -/
def toNat? (x : Binary64) : Option Nat :=
  let (n, m) := scaled x.mantissa 1 2 x.exponent
  if n % m = 0 then some (n / m) else none

/-- The decimal fractions of `count` digits next to a quotient, the nearer first, or the even one if
they are equally near. -/
def neighbours (n m count : Nat) : List (Nat × Int) :=
  let guess : Int := (Nat.toDigits 10 n).length - (Nat.toDigits 10 m).length
  let (power, one) := scaled m n 10 guess
  let point := if power ≤ one then guess + 1 else guess
  let exponent := point - count
  let (n, m) := scaled n m 10 (-exponent)
  let floor := n / m
  if nearest n m = floor then [(floor, exponent), (floor + 1, exponent)]
  else [(floor + 1, exponent), (floor, exponent)]

/-- The decimal fractions next to a floating-point number, those of fewer digits first. Seventeen
digits are always enough. -/
def decimals (x : Binary64) : List (Nat × Int) :=
  let (n, m) := scaled x.mantissa 1 2 x.exponent
  (List.range' 1 17).flatMap (neighbours n m)

/-- The fewest digits, and the power of ten that they are counted in, from which a floating-point
number is kept. -/
def shortest? (x : Binary64) : Option (Nat × Int) :=
  x.decimals.find? fun shown ↦ ofDecimal? shown.1 shown.2 = some x

end Binary64

namespace Fraction

/-- The size of the floating-point number that a fraction is kept as, unless it is infinite. -/
def size? (f : Fraction) : Option Binary64 := Binary64.ofDecimal? f.digits f.exponent

/-- The whole number that a fraction is kept as, if it is kept as one. -/
def toInt? (f : Fraction) : Option Int :=
  (f.size?.bind Binary64.toNat?).map fun n ↦ if f.negative then -(n : Int) else n

/-- The digits of a number without the zeros at their end, and the number of zeros dropped. -/
def significant (digits : Nat) : List Char × Nat :=
  let all := Nat.toDigits 10 digits
  let kept := (all.reverse.dropWhile (· == '0')).reverse
  (kept, all.length - kept.length)

/-- An exponent with its sign and at least two digits. -/
def exponentMark (e : Int) : List Char :=
  'e' :: (if e < 0 then '-' else '+') :: (Nat.toDigits 10 e.natAbs).leftpad 2 '0'

/-- A positive fraction, from its significant digits and the place of the point after the first of
them: with a point from four zeros behind it up to sixteen digits before it, otherwise with an
exponent. -/
def written (digits : List Char) (point : Int) : List Char :=
  if point < -3 ∨ 16 < point then
    match digits with
    | [] => []
    | [d] => d :: exponentMark (point - 1)
    | d :: rest => d :: '.' :: rest ++ exponentMark (point - 1)
  else if point ≤ 0 then '0' :: '.' :: List.replicate point.natAbs '0' ++ digits
  else if digits.length ≤ point.natAbs then
    digits ++ List.replicate (point.natAbs - digits.length) '0' ++ ['.', '0']
  else digits.take point.natAbs ++ '.' :: digits.drop point.natAbs

/-- The text of a fraction, given the text for infinity. -/
def text (infinity : String) (f : Fraction) : String :=
  let size :=
    match f.size? with
    | none => infinity
    | some x =>
      match x.shortest? with
      | none | some (0, _) => "0.0"
      | some (shown, exponent) =>
        let (digits, dropped) := significant shown
        String.ofList (written digits (digits.length + dropped + exponent))
  if f.negative then "-" ++ size else size

/-- The text of a fraction in messages. -/
def display (f : Fraction) : String := f.text "inf"

end Fraction

end CaptureFilter.Json
