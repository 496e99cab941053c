import CaptureFilter.Criterion.Fragment
import CaptureFilter.Proofs.HexDigits

/-!
# What tokens denote

The tokens of packet fields other than addresses denote numbers or rows of octets. A value has one
fragment in a field at a depth, and values that are denoted there have the same text only if they
are the same.
Spec guidance: `SPEC_FULL.md` §4.1 (token forms of each type).
-/

namespace CaptureFilter

open Text

namespace Text

/-! ### Numbers written out -/

/-- Numbers in decimal digits differ. -/
theorem decimal_injective {m n : Nat} (h : decimal m = decimal n) : m = n := by
  rw [← ofDigitChars_decimal m, h, ofDigitChars_decimal]

/-- A number is written without other characters than digits. -/
theorem not_mem_decimal {c : Char} (h : c.isDigit = false) (n : Nat) : c ∉ (decimal n).toList := by
  intro hm
  rw [isDigit_of_mem_decimal hm] at h
  cases h

/-- Whole numbers in decimal digits differ. -/
theorem signedDecimal_injective {m n : Int} (h : signedDecimal m = signedDecimal n) : m = n := by
  have hsign (n k : Nat) : decimal n ≠ "-" ++ decimal k := by
    intro he
    apply not_mem_decimal (c := '-') (by decide) n
    rw [he, String.toList_append]
    exact List.mem_cons_self
  cases m with
  | ofNat m =>
    cases n with
    | ofNat n => rw [decimal_injective h]
    | negSucc n => exact absurd h (hsign m (n + 1))
  | negSucc m =>
    cases n with
    | ofNat n => exact absurd h.symm (hsign n (m + 1))
    | negSucc n =>
      have hd : m + 1 = n + 1 := decimal_injective ((String.append_right_inj "-").mp h)
      rw [Nat.succ.inj hd]

end Text

namespace Fragment

variable {octets others : List UInt8}

/-! ### Octets written out -/

private theorem toList_octetText (octet : UInt8) :
    (octetText octet).toList = hexDigits 2 octet.toNat := by
  rw [octetText, String.toList_ofList]

private theorem toList_octets (octets : List UInt8) :
    ("".intercalate (octets.map octetText)).toList =
      octets.flatMap fun octet ↦ hexDigits 2 octet.toNat := by
  induction octets with
  | nil => rfl
  | cons octet rest ih =>
    rw [List.flatMap_cons, ← ih, ← toList_octetText, ← String.toList_append, List.map_cons]
    cases rest with
    | nil => simp
    | cons next rest => simp [String.intercalate_cons_cons]

private theorem text_hardwareStart_eq (octets : List UInt8) :
    text (.hardwareStart octets) =
      "(" ++ (octetsAt octets 0 ++ " or " ++ octetsAt octets 6) ++ ")" := rfl

/-- A beginning of a hardware address is compared as one number at both places. -/
theorem text_hardwareStart (h : octets ≠ []) :
    text (.hardwareStart octets) =
      "(ether[0:" ++ decimal octets.length ++ "] = 0x" ++
          String.ofList (hexDigits (2 * octets.length) (bigEndian octets)) ++
        " or ether[6:" ++ decimal octets.length ++ "] = 0x" ++
          String.ofList (hexDigits (2 * octets.length) (bigEndian octets)) ++ ")" := by
  have hdigits : "".intercalate (octets.map octetText) =
      String.ofList (hexDigits (2 * octets.length) (bigEndian octets)) := by
    rw [← String.toList_inj, toList_octets, String.toList_ofList, flatMap_hexDigits h]
  have hzero : "ether[" ++ decimal 0 ++ ":" = "ether[0:" := by decide
  have hsix : "ether[" ++ decimal 6 ++ ":" = "ether[6:" := by decide
  rw [text_hardwareStart_eq, octetsAt, octetsAt, hdigits, hzero, hsix]
  simp [← String.toList_inj, String.toList_append]

/-- Different beginnings of hardware addresses are compared differently. -/
theorem hardwareStart_text_inj (h : text (.hardwareStart octets) = text (.hardwareStart others)) :
    octets = others := by
  have hnot (n : Nat) : ']' ∉ (decimal n).toList := not_mem_decimal (by decide) n
  have htext (octets : List UInt8) : ∃ rest, (text (.hardwareStart octets)).toList =
      "(ether[0:".toList ++ ((decimal octets.length).toList ++ ']' ::
        (" = 0x".toList ++ ((octets.flatMap fun octet ↦ hexDigits 2 octet.toNat) ++ rest))) := by
    have hzero : (decimal 0).toList = ['0'] := by decide
    refine ⟨(" or " ++ octetsAt octets 6 ++ ")").toList, ?_⟩
    rw [← toList_octets, text_hardwareStart_eq, octetsAt]
    simp [String.toList_append, hzero]
  obtain ⟨rest, hl⟩ := htext octets
  obtain ⟨rest', hr⟩ := htext others
  rw [h] at hl
  have hbehind := List.append_cancel_left (hl.symm.trans hr)
  -- the count is what stands before the first bracket
  have hcut := congrArg (cut ']') hbehind
  rw [cut_append_cons (hnot _), cut_append_cons (hnot _), Prod.mk.injEq, Option.some.injEq] at hcut
  obtain ⟨hcount, hdigits⟩ := hcut
  have hcount : octets.length = others.length := decimal_injective (String.toList_inj.mp hcount)
  have hall := List.append_inj (List.append_cancel_left hdigits)
    (by rw [length_flatMap_hexDigits, length_flatMap_hexDigits, hcount])
  exact flatMap_hexDigits_injective hall.1

/-- Different hardware addresses are compared differently. -/
theorem hardware_text_inj (ho : octets ≠ []) (hs : others ≠ [])
    (h : text (.hardware octets) = text (.hardware others)) : octets = others := by
  have hl := congrArg String.toList ((String.append_right_inj "ether host ").mp h)
  have hparts (octets : List UInt8) : (octets.map octetText).map String.toList =
      octets.map fun octet ↦ hexDigits 2 octet.toNat := by
    rw [List.map_map]
    exact List.map_congr_left fun octet _ ↦ toList_octetText octet
  have hcolon (octets : List UInt8) :
      ∀ part ∈ octets.map fun octet ↦ hexDigits 2 octet.toNat, ':' ∉ part := by
    intro part hp hm
    obtain ⟨octet, -, rfl⟩ := List.mem_map.mp hp
    exact absurd (isHexDigit_of_mem_hexDigits hm) (by decide)
  have hsep : ":".toList = [':'] := by decide
  rw [String.toList_intercalate, String.toList_intercalate, hparts, hparts, hsep] at hl
  have hsplit := congrArg (List.splitOn ':') hl
  rw [List.splitOn_intercalate ':' (hcolon octets) (by simpa using ho),
    List.splitOn_intercalate ':' (hcolon others) (by simpa using hs)] at hsplit
  exact (List.map_inj_right fun a b hab ↦ UInt8.toNat_inj.mp (hexDigits_injective hab)).mp hsplit

/-! ### Values -/

/-- What a token denotes. -/
inductive Value where
  /-- A number. -/
  | number (n : Int)
  /-- A row of octets. -/
  | octets (all : List UInt8)
  deriving DecidableEq, Repr

/-- The fragment of a value in a field at a depth. -/
def Value.fragment (depth : Fin 10) : PacketField → Value → Fragment
  | .vlan, .number n => .tag depth n.toNat
  | .ethertype, .number n => .ethertype n.toNat
  | .port, .number n => .port n.toNat
  | _, .number n => .protocol n
  | _, .octets all => if all.length = 6 then .hardware all else .hardwareStart all

/-- A token of ASCII digits denotes a number. -/
def IsDecimal (token : String) (n : Nat) : Prop :=
  isNumber token.toList = true ∧ Nat.ofDigitChars 10 token.toList 0 = n

/-- A row of at least one and at most so many hexadecimal digits. -/
structure IsHexRow (most : Nat) (digits : List Char) : Prop where
  /-- There is one. -/
  one_le : 1 ≤ digits.length
  /-- There are not too many. -/
  le_most : digits.length ≤ most
  /-- All are digits. -/
  isHexDigit : ∀ c ∈ digits, isHexDigit c = true

/-- Rows of digits are recognised by looking at them. -/
instance (most : Nat) (digits : List Char) : Decidable (IsHexRow most digits) :=
  decidable_of_iff
    (1 ≤ digits.length ∧ digits.length ≤ most ∧ digits.all Text.isHexDigit = true)
    ⟨fun ⟨hlo, hhi, hd⟩ ↦ ⟨hlo, hhi, List.all_eq_true.mp hd⟩,
      fun ⟨hlo, hhi, hd⟩ ↦ ⟨hlo, hhi, List.all_eq_true.mpr hd⟩⟩

/-- The value that a token of a field denotes at a depth. -/
inductive Denotes (table : Protocol.Table) (depth : Fin 10) :
    PacketField → String → Value → Prop where
  /-- The number of a tag, where packets have one. -/
  | tag {token n} (h : IsDecimal token n) (hn : n ≤ 4095) (hd : 1 ≤ depth.val) :
      Denotes table depth .vlan token (.number n)
  /-- An ethertype that is not a tag's, perhaps behind a marker. -/
  | ethertype {token marker digits} (ht : token.toList = marker ++ digits)
      (hm : marker ∈ [[], ['0', 'x'], ['0', 'X']]) (hd : IsHexRow 4 digits)
      (hn : ofHexDigits digits ∉ [0x8100, 0x88A8]) :
      Denotes table depth .ethertype token (.number (ofHexDigits digits))
  /-- The number of a protocol. -/
  | protocol {token n} (h : IsDecimal token n) (hn : n ≤ 255) :
      Denotes table depth .protocol token (.number n)
  /-- The name of a protocol, whose number can be written. -/
  | protocolName {token n} (h : isNumber token.toList = false) (hn : table.lookup token = some n)
      (hw : ¬ Numeral.Unwritable n) : Denotes table depth .protocol token (.number n)
  /-- A hardware address or a beginning that can be compared, in groups between colons. -/
  | hardware {token groups octets} (ht : token.toList = [':'].intercalate groups)
      (hl : groups.length ∈ [1, 2, 4, 6]) (hg : ∀ group ∈ groups, IsHexRow 2 group)
      (ho : octets.map UInt8.toNat = groups.map ofHexDigits) :
      Denotes table depth .mac token (.octets octets)
  /-- The number of a port. -/
  | port {token n} (h : IsDecimal token n) (hlo : 1 ≤ n) (hhi : n ≤ 65535) :
      Denotes table depth .port token (.number n)

variable {table : Protocol.Table} {depth : Fin 10} {field : PacketField} {s t : String}
  {v w : Value}

private theorem length_of_groups {groups : List (List Char)} (hl : groups.length ∈ [1, 2, 4, 6])
    (ho : octets.map UInt8.toNat = groups.map ofHexDigits) : octets.length ∈ [1, 2, 4, 6] := by
  have hlen := congrArg List.length ho
  rw [List.length_map, List.length_map] at hlen
  rw [hlen]
  exact hl

private theorem octets_text_inj (ho : octets.length ∈ [1, 2, 4, 6])
    (hs : others.length ∈ [1, 2, 4, 6])
    (h : ((Value.octets octets).fragment depth .mac).text =
      ((Value.octets others).fragment depth .mac).text) : octets = others := by
  have hne {octets : List UInt8} (h : octets.length ∈ [1, 2, 4, 6]) : octets ≠ [] := by
    rintro rfl
    exact absurd h (by decide)
  have hdiffer (octets others : List UInt8) :
      text (.hardware octets) ≠ text (.hardwareStart others) := by
    simp [text, ← String.toList_inj, String.toList_append]
  dsimp only [Value.fragment] at h
  split at h
  · split at h
    · exact hardware_text_inj (hne ho) (hne hs) h
    · exact absurd h (hdiffer _ _)
  · split at h
    · exact absurd h.symm (hdiffer _ _)
    · exact hardwareStart_text_inj h

private theorem number_eq_of_decimal {m n : Nat} (h : decimal m = decimal n) :
    Value.number m = Value.number n :=
  congrArg (fun n : Nat ↦ Value.number n) (decimal_injective h)

/-- Values that tokens of a field denote at a depth have different texts. -/
theorem Denotes.text_inj (hv : Denotes table depth field s v) (hw : Denotes table depth field t w)
    (h : (v.fragment depth field).text = (w.fragment depth field).text) : v = w := by
  cases hv with
  | tag _ _ _ =>
    cases hw with
    | tag _ _ _ => exact number_eq_of_decimal ((String.append_right_inj _).mp h)
  | ethertype _ _ _ _ =>
    cases hw with
    | ethertype _ _ _ _ =>
      have hdigits := String.ofList_inj.mp ((String.append_right_inj "ether proto 0x").mp h)
      exact congrArg (fun n : Nat ↦ Value.number n) (hexDigits_injective hdigits)
  | protocol _ _ | protocolName _ _ _ =>
    cases hw with
    | protocol _ _ | protocolName _ _ _ =>
      exact congrArg Value.number (signedDecimal_injective ((String.append_right_inj "proto ").mp h))
  | hardware _ hl _ ho =>
    cases hw with
    | hardware _ hl' _ ho' =>
      rw [octets_text_inj (length_of_groups hl ho) (length_of_groups hl' ho') h]
  | port _ _ _ =>
    cases hw with
    | port _ _ _ => exact number_eq_of_decimal ((String.append_right_inj "port ").mp h)

end Fragment

end CaptureFilter
