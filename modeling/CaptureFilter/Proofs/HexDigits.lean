import CaptureFilter.Proofs.Characters
import Mathlib.Data.List.Induction

/-!
# Rows of hexadecimal digits

Two hexadecimal digits denote an octet, and rows of one width differ as their numbers do. Octets
written one after the other, in two digits each, are their number in digits of the same width.
Spec guidance: `SPEC_FULL.md` §4.1 (`_compile_ethertype`, `_compile_macaddress`).
-/

namespace CaptureFilter.Text

/-! ### Values -/

private theorem hexValue_lt (c : Char) : hexValue c < 16 := by
  unfold hexValue
  split
  · next h =>
    have hle : c.toNat ≤ 0x39 := (Char.isDigit_iff_toNat.mp h).2
    omega
  · split
    · next h =>
      have hle : c.toNat ≤ 'f'.toNat := h.2
      have hf : 'f'.toNat = 0x66 := rfl
      omega
    · split
      · next h =>
        have hle : c.toNat ≤ 'F'.toNat := h.2
        have hf : 'F'.toNat = 0x46 := rfl
        omega
      · decide

/-- At most two hexadecimal digits denote an octet. -/
theorem ofHexDigits_lt {digits : List Char} (h : digits.length ≤ 2) : ofHexDigits digits < 256 := by
  match digits with
  | [] => decide
  | [low] =>
    have hlow : hexValue low < 16 := hexValue_lt low
    change 16 * 0 + hexValue low < 256
    omega
  | [high, low] =>
    have hhigh : hexValue high < 16 := hexValue_lt high
    have hlow : hexValue low < 16 := hexValue_lt low
    change 16 * (16 * 0 + hexValue high) + hexValue low < 256
    omega

/-! ### Rows of a width -/

/-- Numbers in hexadecimal digits of one width differ. -/
theorem hexDigits_injective {width m n : Nat} (h : hexDigits width m = hexDigits width n) :
    m = n := by
  rw [← ofHexDigits_hexDigits width m, h, ofHexDigits_hexDigits]

/-- The last digit of a number stands behind the digits of the rest. -/
theorem hexDigits_succ {width : Nat} (hw : 0 < width) (n : Nat) {digit : Nat} (hd : digit < 16) :
    hexDigits (width + 1) (16 * n + digit) = hexDigits width n ++ [digit.digitChar] := by
  rw [hexDigits, hexDigits, List.leftpad, List.leftpad]
  by_cases hn : n = 0
  · obtain ⟨count, rfl⟩ : ∃ count, width = count + 1 := ⟨width - 1, by omega⟩
    have hzero : Nat.toDigits 16 0 = ['0'] := by decide
    rw [hn, Nat.mul_zero, Nat.zero_add, Nat.toDigits_of_lt_base hd, hzero]
    simp [List.replicate_succ']
  · have hsplit : Nat.toDigits 16 n ++ Nat.toDigits 16 digit = Nat.toDigits 16 (16 * n + digit) :=
      Nat.toDigits_append_toDigits (by decide) (Nat.pos_of_ne_zero hn) hd
    rw [← hsplit, Nat.toDigits_of_lt_base hd, List.length_append, List.length_singleton,
      Nat.add_sub_add_right, List.append_assoc]

private theorem hexDigits_two {octet : Nat} (h : octet < 256) :
    hexDigits 2 octet = [(octet / 16).digitChar, (octet % 16).digitChar] := by
  have hd : octet / 16 < 16 := by omega
  have hone : hexDigits 1 (octet / 16) = [(octet / 16).digitChar] := by
    rw [hexDigits, Nat.toDigits_of_lt_base hd]
    rfl
  have hsucc := hexDigits_succ Nat.zero_lt_one (octet / 16) (Nat.mod_lt octet (by decide : 0 < 16))
  rw [Nat.div_add_mod, hone] at hsucc
  exact hsucc

/-- The last octet of a number stands behind the digits of the rest. -/
theorem hexDigits_add_two {width : Nat} (hw : 0 < width) (n : Nat) {octet : Nat}
    (ho : octet < 256) :
    hexDigits (width + 2) (256 * n + octet) = hexDigits width n ++ hexDigits 2 octet := by
  have hsplit : 256 * n + octet = 16 * (16 * n + octet / 16) + octet % 16 := by omega
  rw [hsplit, hexDigits_succ (by omega) _ (by omega), hexDigits_succ hw _ (by omega),
    hexDigits_two ho, List.append_assoc]
  rfl

/-- The number that octets make, the first of them weighing most. -/
def bigEndian (octets : List UInt8) : Nat := octets.foldl (fun n octet ↦ 256 * n + octet.toNat) 0

/-- Octets in two digits each are their number in twice as many digits as there are octets. -/
theorem flatMap_hexDigits {octets : List UInt8} (h : octets ≠ []) :
    octets.flatMap (fun octet ↦ hexDigits 2 octet.toNat) =
      hexDigits (2 * octets.length) (bigEndian octets) := by
  induction octets using List.reverseRecOn with
  | nil => exact absurd rfl h
  | append_singleton front last ih =>
    have hlast : last.toNat < 256 := last.toNat_lt
    by_cases hf : front = []
    · simp [hf, bigEndian]
    · have hpos : 0 < front.length := List.length_pos_iff.mpr hf
      have hvalue : bigEndian (front ++ [last]) = 256 * bigEndian front + last.toNat := by
        rw [bigEndian, List.foldl_append]
        rfl
      rw [List.flatMap_append, ih hf, List.flatMap_singleton, hvalue, List.length_append,
        List.length_singleton, Nat.mul_add, hexDigits_add_two (by omega) _ hlast]

/-- An octet has two digits. -/
theorem length_hexDigits_octet (octet : UInt8) : (hexDigits 2 octet.toNat).length = 2 := by
  rw [hexDigits_two octet.toNat_lt]
  rfl

/-- Octets have two digits each. -/
theorem length_flatMap_hexDigits (octets : List UInt8) :
    (octets.flatMap fun octet ↦ hexDigits 2 octet.toNat).length = 2 * octets.length := by
  induction octets with
  | nil => rfl
  | cons octet rest ih =>
    rw [List.flatMap_cons, List.length_append, length_hexDigits_octet, ih, List.length_cons]
    omega

/-- Octets in two digits each differ. -/
theorem flatMap_hexDigits_injective {octets others : List UInt8}
    (h : octets.flatMap (fun octet ↦ hexDigits 2 octet.toNat) =
      others.flatMap (fun octet ↦ hexDigits 2 octet.toNat)) : octets = others := by
  induction octets generalizing others with
  | nil =>
    cases others with
    | nil => rfl
    | cons other rest =>
      rw [List.flatMap_cons] at h
      exact absurd (List.append_eq_nil_iff.mp h.symm).1 (hexDigits_ne_nil 2 other.toNat)
  | cons octet rest ih =>
    cases others with
    | nil =>
      rw [List.flatMap_cons] at h
      exact absurd (List.append_eq_nil_iff.mp h).1 (hexDigits_ne_nil 2 octet.toNat)
    | cons other others =>
      rw [List.flatMap_cons, List.flatMap_cons] at h
      obtain ⟨hfirst, hrest⟩ := List.append_inj h
        (by rw [length_hexDigits_octet, length_hexDigits_octet])
      rw [UInt8.toNat_inj.mp (hexDigits_injective hfirst), ih hrest]

end CaptureFilter.Text
