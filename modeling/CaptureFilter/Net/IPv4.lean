import CaptureFilter.Text.Cut
import CaptureFilter.Text.Digit

/-!
# IPv4 addresses

Four decimal octets between points. An octet has no leading zero, so each address has one text.
Spec guidance: `SPEC_FULL.md` §6 (`is_ip_address`).
-/

namespace CaptureFilter.Net

open Text

/-- An IPv4 address. -/
abbrev IPv4 := BitVec 32

namespace IPv4

/-- The value of an octet: at most three digits without a leading zero, 255 at most. -/
def octet? (s : List Char) : Option Nat :=
  let n := Nat.ofDigitChars 10 s 0
  if isNumber s ∧ s.length ≤ 3 ∧ (s.head? = some '0' → s.length = 1) ∧ n ≤ 255 then some n else none

/-- The address of four octets. -/
def ofOctets (a b c d : Nat) : IPv4 := BitVec.ofNat 32 (((a * 256 + b) * 256 + c) * 256 + d)

/-- The address that a text denotes. -/
def parse? (s : List Char) : Option IPv4 :=
  match s.splitOn '.' with
  | [a, b, c, d] => do
    return ofOctets (← octet? a) (← octet? b) (← octet? c) (← octet? d)
  | _ => none

/-- The octets of an address. -/
def octets (a : IPv4) : List Nat :=
  [a.toNat / 0x1000000, a.toNat / 0x10000 % 256, a.toNat / 0x100 % 256, a.toNat % 256]

/-- The text of an address. -/
def text (a : IPv4) : String := ".".intercalate (a.octets.map decimal)

end IPv4

/-- An address with its bits beyond the first `length` cleared. -/
def clearHost {w : Nat} (length : Nat) (a : BitVec w) : BitVec w :=
  (a >>> (w - length)) <<< (w - length)

/-- Each bit of a cleared address is the address's own within the prefix and zero beyond it. -/
theorem getMsbD_clearHost {w : Nat} (length : Nat) (a : BitVec w) (i : Nat) :
    (clearHost length a).getMsbD i = (decide (i < length) && a.getMsbD i) := by
  simp only [clearHost, BitVec.getMsbD_shiftLeft, BitVec.getMsbD_ushiftRight]
  by_cases hi : i < w
  · by_cases hl : i < length
    · by_cases hk : i + (w - length) < w
      · simp [hl, hk]
      · omega
    · have : ¬ i + (w - length) < w := by omega
      simp [hl, this]
  · have hn : ¬ i + (w - length) < w := by omega
    rw [BitVec.getMsbD_of_ge a i (by omega)]
    simp [hn]

/-- Clearing twice is clearing once. -/
theorem clearHost_clearHost {w : Nat} (length : Nat) (a : BitVec w) :
    clearHost length (clearHost length a) = clearHost length a := by
  apply BitVec.eq_of_getMsbD_eq
  intro i _
  simp only [getMsbD_clearHost]
  cases decide (i < length) <;> simp

end CaptureFilter.Net
