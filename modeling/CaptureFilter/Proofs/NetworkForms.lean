import CaptureFilter.Criterion.Fragment
import CaptureFilter.Proofs.AddressReading
import CaptureFilter.Proofs.Networks
import CaptureFilter.Proofs.Numerals
import CaptureFilter.Proofs.Success

/-!
# Network forms of subnets

A text is a subnet exactly if it is an address and, behind one slash, a prefix length that fits the
address. Its network form is a subnet too, and its own network form. Subnets that agree within the
prefix have one network form, unless a zone comes with bits beyond the prefix in only one of them.
Spec guidance: `SPEC_FULL.md` §4.1 (`_compile_ipaddress`) and §6 (`is_subnet`, `subnet_network`).
-/

namespace CaptureFilter.Net

open Text

/-- A text denotes an address and a prefix length: the address, a slash, and ASCII digits of a value
that fits the address's family. -/
inductive Subnet.Denotes (s : String) : Address → Nat → Prop where
  /-- The slash stands between the two. -/
  | intro {front digits : List Char} {a : Address} (hs : s.toList = front ++ '/' :: digits)
    (ha : Address.parse? front = some a) (hd : isNumber digits = true)
    (hn : Nat.ofDigitChars 10 digits 0 ≤ a.width) : Denotes s a (Nat.ofDigitChars 10 digits 0)

/-- What stands behind the first slash of a text has no more digits than can be read. -/
def ReadableLength (s : String) : Prop :=
  ∀ behind, (cut '/' s.toList).2 = some behind →
    behind.countP Char.isDigit ≤ Numeral.maxDigits

variable {s t : String} {front digits : List Char} {a b : Address} {length : Nat}

/-! ### What is read -/

namespace Subnet

private theorem length?_of_digits (hd : isNumber digits = true)
    (hl : digits.length ≤ Numeral.maxDigits) (width : Nat) :
    length? width digits =
      if Nat.ofDigitChars 10 digits 0 ≤ width then some (Nat.ofDigitChars 10 digits 0)
      else none := by
  simp [length?, hd, hl]

private theorem maskLength?_of_not_mem {s : List Char} (h : '.' ∉ s) : maskLength? s = none := by
  rw [maskLength?, IPv4.parse?, List.splitOn_eq_singleton h]
  rfl

private theorem splitOn_slash (hf : '/' ∉ front) (hd : isNumber digits = true) :
    (front ++ '/' :: digits).splitOn '/' = [front, digits] :=
  splitOn_eq_pair_iff.mpr ⟨hf, not_mem_of_isNumber hd (by decide), rfl⟩

/-- An address and digits are read as the subnet they denote, if they denote one. -/
theorem parse?_of_digits (hf : '/' ∉ front) (hd : isNumber digits = true)
    (hl : digits.length ≤ Numeral.maxDigits) :
    parse? (front ++ '/' :: digits) = (Address.parse? front).bind fun a ↦
      if Nat.ofDigitChars 10 digits 0 ≤ a.width then some (of (Nat.ofDigitChars 10 digits 0) a)
      else none := by
  have hmask : maskLength? digits = none :=
    maskLength?_of_not_mem (not_mem_of_isNumber hd (by decide))
  rw [parse?, splitOn_slash hf hd]
  simp only [v4?, v6?, length?_of_digits hd hl, hmask]
  cases h4 : IPv4.parse? front with
  | some a4 =>
    have ha : Address.parse? front = some (.v4 a4) :=
      Address.parse?_eq_some_iff.mpr ⟨hf, .inl ⟨a4, h4, rfl⟩⟩
    rw [ha, Address.parseV6?_of_v4 h4]
    by_cases hn : Nat.ofDigitChars 10 digits 0 ≤ 32 <;> simp [hn, Address.width]
  | none =>
    have ha : Address.parse? front = Address.parseV6? front := by
      rw [Address.parse?, if_neg (fun hc ↦ hf (List.contains_iff_mem.mp hc)), h4]
    rw [ha]
    cases h6 : Address.parseV6? front with
    | none => rfl
    | some a =>
      have hw : a.width = 128 := Address.width_of_parseV6? h6
      by_cases hn : Nat.ofDigitChars 10 digits 0 ≤ 128 <;> simp [hn, hw]

/-- A length that is neither digits nor a mask makes no subnet. -/
theorem parse?_of_not_number (hf : '/' ∉ front) (hs : '/' ∉ digits) (hp : '.' ∉ digits)
    (hd : isNumber digits = false) : parse? (front ++ '/' :: digits) = none := by
  have hlength (width : Nat) : length? width digits = none := by simp [length?, hd]
  rw [parse?, splitOn_eq_pair_iff.mpr ⟨hf, hs, rfl⟩]
  simp only [v4?, v6?, hlength, maskLength?_of_not_mem hp]
  cases IPv4.parse? front <;> cases Address.parseV6? front <;> rfl

end Subnet

/-! ### What is accepted -/

private theorem isSubnet_of_digits (hs : s.toList = front ++ '/' :: digits) (hf : '/' ∉ front)
    (hd : isNumber digits = true) (hl : digits.length ≤ Numeral.maxDigits) :
    isSubnet s = .ok ((Address.parse? front).any fun a ↦
      decide (Nat.ofDigitChars 10 digits 0 ≤ a.width)) := by
  have hline : dropFinalLineFeed digits = digits :=
    dropFinalLineFeed_of_not_mem (not_mem_of_isNumber hd (by decide))
  have hread : isSubnet s =
      if 128 < Nat.ofDigitChars 10 digits 0 then .ok false
      else .ok ((Address.parse? front).isSome && (Subnet.parse? s.toList).isSome) := by
    rw [isSubnet, hs, Subnet.splitOn_slash hf hd]
    dsimp only
    rw [hline, if_pos hd, Numeral.read_of_isNumber hd hl]
    rfl
  rw [hread, hs, Subnet.parse?_of_digits hf hd hl]
  cases Address.parse? front with
  | none => split <;> rfl
  | some a =>
    have hw := a.width_le
    by_cases hn : Nat.ofDigitChars 10 digits 0 ≤ a.width
    · rw [if_neg (by omega)]
      simp [hn]
    · split <;> simp [hn]

private theorem isSubnet_of_not_number {behind : List Char}
    (hs : s.toList = front ++ '/' :: behind) (hf : '/' ∉ front) (hbehind : '/' ∉ behind)
    (hl : behind.countP Char.isDigit ≤ Numeral.maxDigits) (hd : isNumber behind = false) :
    isSubnet s = .ok false := by
  rw [isSubnet, hs, splitOn_eq_pair_iff.mpr ⟨hf, hbehind, rfl⟩]
  dsimp only
  split
  · next hnumber =>
    -- digits in front of a line feed, which the check passes over but the reader does not
    rcases dropFinalLineFeed_eq_or behind with heq | heq
    · rw [heq, hd] at hnumber
      cases hnumber
    · have hdigits : (dropFinalLineFeed behind).length ≤ Numeral.maxDigits := by
        rw [heq, List.countP_append, countP_isDigit_of_isNumber hnumber] at hl
        exact Nat.le_of_add_right_le hl
      have hpoint : '.' ∉ behind := by
        rw [heq, List.mem_append, not_or]
        exact ⟨not_mem_of_isNumber hnumber (by decide), by decide⟩
      rw [Numeral.read_of_isNumber hnumber hdigits,
        Subnet.parse?_of_not_number hf hbehind hpoint hd]
      change (if _ then _ else Except.ok _) = _
      split
      · rfl
      · simp
  · rfl

/-- A text that denotes no subnet is refused. -/
theorem isSubnet_eq_false (hb : ReadableLength s) (hno : ∀ a length, ¬ Subnet.Denotes s a length) :
    isSubnet s = .ok false := by
  by_cases hpair : ∃ front behind, s.toList.splitOn '/' = [front, behind]
  · obtain ⟨front, behind, hsplit⟩ := hpair
    obtain ⟨hf, hbehind, hs⟩ := splitOn_eq_pair_iff.mp hsplit
    have hl : behind.countP Char.isDigit ≤ Numeral.maxDigits :=
      hb behind (by rw [hs, cut_append_cons hf])
    cases hd : isNumber behind with
    | false => exact isSubnet_of_not_number hs hf hbehind hl hd
    | true =>
      rw [countP_isDigit_of_isNumber hd] at hl
      rw [isSubnet_of_digits hs hf hd hl]
      congr 1
      refine Bool.eq_false_iff.mpr fun hany ↦ ?_
      obtain ⟨a, ha, hn⟩ := (Option.any_eq_true _ _).mp hany
      exact hno a _ (.intro hs ha hd (of_decide_eq_true hn))
  · unfold isSubnet
    split
    · next front behind hsplit => exact absurd ⟨front, behind, hsplit⟩ hpair
    · rfl

/-- No slash stands in what denotes an address. -/
theorem Address.slash_not_mem (h : Address.parse? front = some a) : '/' ∉ front :=
  (Address.parse?_eq_some_iff.mp h).1

/-- The digits of a subnet that has an answer can be read. -/
theorem Subnet.Denotes.readableLength (h : Denotes s a length) {accepted : Bool}
    (hx : isSubnet s = .ok accepted) : ReadableLength s := by
  obtain ⟨hs, ha, hd, -⟩ := h
  have hf := Address.slash_not_mem ha
  intro behind hbehind
  rw [hs, cut_append_cons hf, Option.some.injEq] at hbehind
  subst hbehind
  refine Nat.le_trans List.countP_le_length (Nat.le_of_not_lt fun hlong ↦ ?_)
  have herror := (Numeral.read_eq_error_iff hd).mpr ⟨⟨hd, hlong⟩, rfl⟩
  rw [isSubnet, hs, Subnet.splitOn_slash hf hd] at hx
  dsimp only at hx
  rw [dropFinalLineFeed_of_not_mem (not_mem_of_isNumber hd (by decide)), if_pos hd, herror] at hx
  cases hx

namespace Subnet

private theorem length_digits_le (hs : s.toList = front ++ '/' :: digits)
    (ha : Address.parse? front = some a) (hd : isNumber digits = true) (hb : ReadableLength s) :
    digits.length ≤ Numeral.maxDigits := by
  have hcount := hb digits (by rw [hs, cut_append_cons (Address.slash_not_mem ha)])
  rw [countP_isDigit_of_isNumber hd] at hcount
  exact hcount

/-- A text that denotes a subnet is accepted. -/
theorem Denotes.isSubnet (h : Denotes s a length) (hb : ReadableLength s) :
    isSubnet s = .ok true := by
  obtain ⟨hs, ha, hd, hn⟩ := h
  rw [isSubnet_of_digits hs (Address.slash_not_mem ha) hd (length_digits_le hs ha hd hb), ha]
  simp [hn]

/-- The network form of a text that denotes a subnet is that of the subnet. -/
theorem Denotes.networkText? (h : Denotes s a length) (hb : ReadableLength s) :
    networkText? s = some (of length a).text := by
  obtain ⟨hs, ha, hd, hn⟩ := h
  rw [Net.networkText?, hs,
    parse?_of_digits (Address.slash_not_mem ha) hd (length_digits_le hs ha hd hb), ha]
  simp [hn]

/-- A prefix length that is denoted fits the address. -/
theorem Denotes.length_le_width (h : Denotes s a length) : length ≤ a.width := by
  obtain ⟨-, -, -, hn⟩ := h
  exact hn

/-- The zone of an address that is denoted can be read. -/
theorem Denotes.hasReadableZone (h : Denotes s a length) : a.HasReadableZone := by
  obtain ⟨-, ha, -, -⟩ := h
  exact Address.hasReadableZone_of_parse? ha

private theorem toList_text (length : Nat) (a : Address) :
    (of length a).text.toList =
      (a.network length).text.toList ++ '/' :: (decimal length).toList := by
  rw [text, String.toList_append, String.toList_append, List.append_assoc]
  rfl

/-- The text of a network denotes it. -/
theorem denotes_text (hz : a.HasReadableZone) (hn : length ≤ a.width) :
    Denotes (of length a).text (a.network length) length := by
  have hd : isNumber (decimal length).toList = true :=
    isNumber_iff.mpr ⟨by simpa using decimal_ne_empty length, fun c hc ↦ isDigit_of_mem_decimal hc⟩
  have hdenotes := Denotes.intro (toList_text length a) (Address.parse?_text (hz.network length)) hd
    (by rw [ofDigitChars_decimal, Address.width_network]; exact hn)
  rw [ofDigitChars_decimal] at hdenotes
  exact hdenotes

/-- A network's network is printed as it is. -/
theorem text_of_network (length : Nat) (a : Address) :
    (of length (a.network length)).text = (of length a).text :=
  congrArg (fun b : Address ↦ b.text ++ "/" ++ decimal length) (a.network_network length)

/-- Networks of one length whose zones can be read have different texts. -/
theorem text_injective (ha : a.HasReadableZone) (hb : b.HasReadableZone)
    (h : (of length a).text = (of length b).text) : a.network length = b.network length := by
  have hcut := congrArg (cut '/') (congrArg String.toList h)
  rw [toList_text, toList_text,
    cut_append_cons (Address.slash_not_mem_text (ha.network length)),
    cut_append_cons (Address.slash_not_mem_text (hb.network length)), Prod.mk.injEq] at hcut
  exact Address.text_injective (ha.network length) (hb.network length)
    (String.toList_inj.mp hcut.1)

/-- The prefix length in the text of a network can be read. -/
theorem readableLength_text (hz : a.HasReadableZone) (hn : length ≤ a.width) :
    ReadableLength (of length a).text := by
  intro behind hbehind
  rw [toList_text, cut_append_cons (Address.slash_not_mem_text (hz.network length)),
    Option.some.injEq] at hbehind
  subst hbehind
  have hfew : (decimal length).toList.length ≤ 3 := by
    have hw := a.width_le
    rw [decimal, String.toList_ofList]
    exact (Nat.length_toDigits_le_iff (by decide) (by decide)).mpr (by omega)
  exact Nat.le_trans List.countP_le_length (Nat.le_trans hfew (by decide))

end Subnet

/-! ### Network forms -/

/-- Where the prefix length of a text can be read, the text is accepted as a subnet exactly if it
denotes one, and refused otherwise. It then has a network form, which is accepted, is its own
network form, and denotes the same prefix length with an address of the same family whose bits are
the address's within the prefix and zero beyond it. -/
theorem subnet_normalised (s : String) (h : ReadableLength s) :
    ((isSubnet s = .ok true ↔ ∃ a length, Subnet.Denotes s a length) ∧
      (isSubnet s = .ok false ↔ ¬ ∃ a length, Subnet.Denotes s a length)) ∧
    ∀ a length, Subnet.Denotes s a length → ∃ r b, networkText? s = some r ∧
      isSubnet r = .ok true ∧ networkText? r = some r ∧ Subnet.Denotes r b length ∧
      b.width = a.width ∧
      b.bits = a.bits.take length ++ List.replicate (a.width - length) false := by
  refine ⟨?_, ?_⟩
  · by_cases hd : ∃ a length, Subnet.Denotes s a length
    · obtain ⟨a, length, hd⟩ := hd
      have htrue := hd.isSubnet h
      exact ⟨iff_of_true htrue ⟨a, length, hd⟩,
        iff_of_false (by rw [htrue]; simp) (not_not.mpr ⟨a, length, hd⟩)⟩
    · have hfalse := isSubnet_eq_false h fun a length hs ↦ hd ⟨a, length, hs⟩
      exact ⟨iff_of_false (by rw [hfalse]; simp) hd, iff_of_true hfalse hd⟩
  · intro a length hd
    have hz := hd.hasReadableZone
    have hn := hd.length_le_width
    have hr := Subnet.denotes_text hz hn
    have hb := Subnet.readableLength_text hz hn
    refine ⟨_, _, hd.networkText? h, hr.isSubnet hb, ?_, hr, a.width_network length,
      Address.bits_network hn⟩
    rw [hr.networkText? hb, Subnet.text_of_network]

/-- A subnet whose address ends in an IPv4 address, one of whose groups the prefix cuts. -/
def cutGroup : String := "2001:DB8:0:0:1:0:1.2.3.4/0104"

/-- Its network form is in hexadecimal groups, and leaves out the first of two runs of zeros. -/
theorem cutGroup_normalised :
    ReadableLength cutGroup ∧ isSubnet cutGroup = .ok true ∧
      networkText? cutGroup = some "2001:db8::1:0:100:0/104" ∧
      ∃ r b, networkText? cutGroup = some r ∧ isSubnet r = .ok true ∧ networkText? r = some r ∧
        Subnet.Denotes r b 104 ∧ b.width = 128 ∧
        b.bits = bitsOf (0x20010DB8000000000001000001000000 : IPv6) := by
  have hread : ReadableLength cutGroup := by
    intro behind hbehind
    have hcut : (cut '/' cutGroup.toList).2 = some ['0', '1', '0', '4'] := by decide
    rw [hcut] at hbehind
    cases hbehind
    decide
  have hdenotes : Subnet.Denotes cutGroup
      (.v6 (0x20010DB8000000000001000001020304 : IPv6) none) 104 :=
    .intro (show _ = "2001:DB8:0:0:1:0:1.2.3.4".toList ++ '/' :: ['0', '1', '0', '4'] by decide)
      (by decide +kernel) (by decide) (by decide)
  obtain ⟨⟨haccepted, -⟩, hform⟩ := subnet_normalised cutGroup hread
  obtain ⟨r, b, hr, hsub, hself, hb, hw, hbits⟩ := hform _ _ hdenotes
  refine ⟨hread, haccepted.mpr ⟨_, _, hdenotes⟩, by decide +kernel, r, b, hr, hsub, hself, hb, hw,
    ?_⟩
  rw [hbits]
  decide +kernel

/-! ### Host bits -/

/-- A subnet's token is compared with its network form. -/
theorem ofToken_of_denotes (h : Subnet.Denotes s a length) (hx : isSubnet s = .ok true)
    (table : Protocol.Table) (depth : Fin 10) :
    Fragment.ofToken table depth .address s = .ok (.network (Subnet.of length a).text) := by
  have hslash : '/' ∈ s.toList := by
    obtain ⟨hs, -, -, -⟩ := h
    simp [hs]
  rw [Fragment.ofToken, Fragment.ofAddress, isAddress_eq_false hslash, if_neg (by simp), hx,
    h.networkText? (h.readableLength hx)]
  rfl

/-- Subnets of one family that agree in the prefix length, within the prefix and in the zone have
network forms, which are what their tokens are compared with. The two are the same exactly if there
is no zone, or both subnets have a bit beyond the prefix, or neither has one. -/
theorem normalised_alike_iff {s t : String} {a b : Address} {length : Nat}
    (hs : isSubnet s = .ok true) (ht : isSubnet t = .ok true) (ha : Subnet.Denotes s a length)
    (hb : Subnet.Denotes t b length) (hw : a.width = b.width) (hz : a.zone = b.zone)
    (hbits : a.bits.take length = b.bits.take length) (table : Protocol.Table) (depth : Fin 10) :
    ∃ r u, networkText? s = some r ∧ networkText? t = some u ∧
      Fragment.ofToken table depth .address s = .ok (.network r) ∧
      Fragment.ofToken table depth .address t = .ok (.network u) ∧
      (r = u ↔ a.zone = none ∨ (true ∈ a.bits.drop length ↔ true ∈ b.bits.drop length)) := by
  have hr := ha.networkText? (ha.readableLength hs)
  have hu := hb.networkText? (hb.readableLength ht)
  refine ⟨_, _, hr, hu, ofToken_of_denotes ha hs table depth, ofToken_of_denotes hb ht table depth,
    ?_⟩
  rw [← Address.network_eq_iff ha.length_le_width hw hbits hz]
  constructor
  · exact Subnet.text_injective ha.hasReadableZone hb.hasReadableZone
  · intro h
    rw [← Subnet.text_of_network, h, Subnet.text_of_network]

/-- An address of a link's network in a zone. -/
def linkAddress (n : Nat) : Address :=
  .v6 (BitVec.ofNat 128 (0xFE800000000000000000000000000000 + n)) (some "eth0".toList)

/-- Two addresses of a network, spelled differently, have one network form, without their zone. -/
theorem hostsInZone_normalised_alike :
    isSubnet "fe80::1%eth0/64" = .ok true ∧ isSubnet "FE80:0::2%eth0/064" = .ok true ∧
      ∃ r u, networkText? "fe80::1%eth0/64" = some r ∧
        networkText? "FE80:0::2%eth0/064" = some u ∧ r = u ∧ r = "fe80::/64" := by
  have hs : isSubnet "fe80::1%eth0/64" = .ok true := by decide +kernel
  have ht : isSubnet "FE80:0::2%eth0/064" = .ok true := by decide +kernel
  have ha : Subnet.Denotes "fe80::1%eth0/64" (linkAddress 1) 64 :=
    .intro (show _ = "fe80::1%eth0".toList ++ '/' :: ['6', '4'] by decide) (by decide +kernel)
      (by decide) (by decide)
  have hb : Subnet.Denotes "FE80:0::2%eth0/064" (linkAddress 2) 64 :=
    .intro (show _ = "FE80:0::2%eth0".toList ++ '/' :: ['0', '6', '4'] by decide)
      (by decide +kernel) (by decide) (by decide)
  obtain ⟨r, u, hr, hu, -, -, hiff⟩ :=
    normalised_alike_iff hs ht ha hb rfl rfl (by decide +kernel) .empty 0
  have htext : networkText? "fe80::1%eth0/64" = some "fe80::/64" := by decide +kernel
  rw [htext] at hr
  exact ⟨hs, ht, r, u, htext.trans hr, hu, hiff.mpr (.inr (by decide +kernel)),
    (Option.some.inj hr).symm⟩

/-- A network in a zone and an address of it agree in family, prefix length, zone and the bits
within the prefix. But the network keeps the zone in its network form, and the address does not. -/
theorem networkInZone_normalised_apart :
    isSubnet "fe80::%eth0/64" = .ok true ∧ isSubnet "fe80::1%eth0/64" = .ok true ∧
      (∃ a b, Subnet.Denotes "fe80::%eth0/64" a 64 ∧ Subnet.Denotes "fe80::1%eth0/64" b 64 ∧
        a.width = b.width ∧ a.zone = b.zone ∧ a.bits.take 64 = b.bits.take 64) ∧
      networkText? "fe80::%eth0/64" = some "fe80::%eth0/64" ∧
      networkText? "fe80::1%eth0/64" = some "fe80::/64" ∧
      ∀ table depth, Fragment.ofToken table depth .address "fe80::%eth0/64" ≠
        Fragment.ofToken table depth .address "fe80::1%eth0/64" := by
  have hs : isSubnet "fe80::%eth0/64" = .ok true := by decide +kernel
  have ht : isSubnet "fe80::1%eth0/64" = .ok true := by decide +kernel
  have ha : Subnet.Denotes "fe80::%eth0/64" (linkAddress 0) 64 :=
    .intro (show _ = "fe80::%eth0".toList ++ '/' :: ['6', '4'] by decide) (by decide +kernel)
      (by decide) (by decide)
  have hb : Subnet.Denotes "fe80::1%eth0/64" (linkAddress 1) 64 :=
    .intro (show _ = "fe80::1%eth0".toList ++ '/' :: ['6', '4'] by decide) (by decide +kernel)
      (by decide) (by decide)
  refine ⟨hs, ht, ⟨_, _, ha, hb, rfl, rfl, by decide +kernel⟩, by decide +kernel,
    by decide +kernel, fun table depth h ↦ ?_⟩
  rw [ofToken_of_denotes ha hs, ofToken_of_denotes hb ht] at h
  have hdiffer : (Subnet.of 64 (linkAddress 0)).text ≠ (Subnet.of 64 (linkAddress 1)).text := by
    decide +kernel
  exact hdiffer (Fragment.network.inj (Except.ok.inj h))

end CaptureFilter.Net
