import CaptureFilter.Expression.Meaning
import CaptureFilter.Proofs.AddressText
import CaptureFilter.Proofs.Building
import CaptureFilter.Proofs.Reading

/-!
# Reading fragments and criteria

The text of a fragment is an operand that reads as the fragment's formula, provided that the words
it repeats from the input can be told from the rest of an expression. The filter of a criterion is a
phrase that reads as the criterion's formula.
Spec guidance: `SPEC_FULL.md` §4.1 (`_compile_tokens`).
-/

namespace CaptureFilter

open Text Net Expression

/-! ### Words of values -/

private theorem isValueChar_of_ne {c : Char}
    (h : c ≠ ' ' ∧ c ≠ '(' ∧ c ≠ ')' ∧ c ≠ 'n' ∧ c ≠ 'o') : isValueChar c = true := by
  simp [isValueChar, isWordChar, h]

private theorem isValueChar_of_isHexDigit {c : Char} (h : isHexDigit c = true) :
    isValueChar c = true := by
  apply isValueChar_of_ne
  refine ⟨?_, ?_, ?_, ?_, ?_⟩ <;> (rintro rfl; exact absurd h (by decide))

private theorem isValueChar_of_isDigit {c : Char} (h : c.isDigit = true) :
    isValueChar c = true := by
  apply isValueChar_of_isHexDigit
  rw [isHexDigit, h]
  rfl

private theorem isValueChar_of_isAddressChar {c : Char} (h : isAddressChar c = true) :
    isValueChar c = true := by
  apply isValueChar_of_ne
  refine ⟨?_, ?_, ?_, ?_, ?_⟩ <;> (rintro rfl; exact absurd h (by decide))

private theorem isValueChar_of_mem_signedDecimal {n : Int} {c : Char}
    (h : c ∈ (signedDecimal n).toList) : isValueChar c = true := by
  rcases isDigit_of_mem_signedDecimal h with h | rfl
  · exact isValueChar_of_isDigit h
  · decide

private theorem isValueChar_of_mem_octetText {octet : UInt8} {c : Char}
    (h : c ∈ (Fragment.octetText octet).toList) : isValueChar c = true := by
  rw [Fragment.octetText, String.toList_ofList] at h
  exact isValueChar_of_isHexDigit (isHexDigit_of_mem_hexDigits h)

private theorem isWord_decimal (n : Nat) : isWord (decimal n).toList = true :=
  isWord_of_forall (decimal_ne_empty n) fun _ hc ↦
    isValueChar_of_isDigit (isDigit_of_mem_decimal hc)

private theorem isWord_signedDecimal (n : Int) : isWord (signedDecimal n).toList = true :=
  isWord_of_forall (signedDecimal_ne_empty n) fun _ hc ↦ isValueChar_of_mem_signedDecimal hc

/-- A text of value characters behind a beginning of such characters is a word. -/
private theorem isWord_append {s t : List Char} (hs : s ≠ []) (h : s.all isValueChar = true)
    (ht : ∀ c ∈ t, isValueChar c = true) : isWord (s ++ t) = true := by
  apply isWord_of_forall
  · exact fun he ↦ hs (List.append_eq_nil_iff.mp he).1
  · intro c hc
    rcases List.mem_append.mp hc with hc | hc
    · exact List.all_eq_true.mp h c hc
    · exact ht c hc

namespace Fragment

/-- The words that a fragment repeats from the input can be told from the rest of an expression. -/
def Readable : Fragment → Prop
  | .host address => isWord address.toList = true
  | .network subnet => isWord subnet.toList = true
  | .hardware octets => octets ≠ []
  | _ => True

/-! ### The texts of fragments -/

private theorem operand_of_two {s : String} {v w : List Char} (hs : s.toList = v ++ ' ' :: w)
    (hv : isWord v = true) (hw : isWord w = true) : Operand s (.atom s) := by
  apply Operand.of_words [v, w] (by simp [hs]) (by simp)
  intro u hu
  simp only [List.mem_cons, List.not_mem_nil, or_false] at hu
  rcases hu with rfl | rfl
  · exact hv
  · exact hw

private theorem operand_of_three {s : String} {v w x : List Char}
    (hs : s.toList = v ++ ' ' :: (w ++ ' ' :: x)) (hv : isWord v = true) (hw : isWord w = true)
    (hx : isWord x = true) : Operand s (.atom s) := by
  apply Operand.of_words [v, w, x] (by simp [hs]) (by simp)
  intro u hu
  simp only [List.mem_cons, List.not_mem_nil, or_false] at hu
  rcases hu with rfl | rfl | rfl
  · exact hv
  · exact hw
  · exact hx

private theorem operand_tag (depth : Fin 10) (n : Nat) :
    Operand (text (.tag depth n)) (.atom (text (.tag depth n))) := by
  let offset := "ether[".toList ++ ((signedDecimal (tagOffset depth.val)).toList ++ ":2]".toList)
  have ho : isWord offset = true := by
    apply isWord_append (by decide) (by decide)
    intro c hc
    rcases List.mem_append.mp hc with hc | hc
    · exact isValueChar_of_mem_signedDecimal hc
    · exact List.all_eq_true.mp (by decide) c hc
  apply Operand.of_words [offset, ['&'], "0x0fff".toList, ['='], (decimal n).toList]
  · simp [text, offset, String.toList_append]
  · simp
  · intro w hw
    simp only [List.mem_cons, List.not_mem_nil, or_false] at hw
    rcases hw with rfl | rfl | rfl | rfl | rfl
    · exact ho
    · decide
    · decide
    · decide
    · exact isWord_decimal n

private theorem isValueChar_of_mem_octets {sep : String} {octets : List UInt8} {c : Char}
    (hsep : sep.toList.all isValueChar = true)
    (h : c ∈ (sep.intercalate (octets.map octetText)).toList) : isValueChar c = true := by
  rcases mem_toList_intercalate h with h | ⟨t, ht, hc⟩
  · exact List.all_eq_true.mp hsep c h
  · obtain ⟨octet, -, rfl⟩ := List.mem_map.mp ht
    exact isValueChar_of_mem_octetText hc

private theorem operand_octetsAt (octets : List UInt8) (offset : Nat) :
    Operand (octetsAt octets offset) (.atom (octetsAt octets offset)) := by
  let place := "ether[".toList ++
    ((decimal offset).toList ++ (':' :: ((decimal octets.length).toList ++ [']'])))
  let value := "0x".toList ++ ("".intercalate (octets.map octetText)).toList
  have hp : isWord place = true := by
    apply isWord_append (by decide) (by decide)
    intro c hc
    simp only [List.mem_append, List.mem_cons, List.not_mem_nil, or_false] at hc
    rcases hc with hc | rfl | hc | rfl
    · exact isValueChar_of_isDigit (isDigit_of_mem_decimal hc)
    · decide
    · exact isValueChar_of_isDigit (isDigit_of_mem_decimal hc)
    · decide
  have hv : isWord value = true :=
    isWord_append (by decide) (by decide) fun _ hc ↦ isValueChar_of_mem_octets (by decide) hc
  exact operand_of_three (v := place) (w := ['=']) (x := value)
    (by simp [octetsAt, place, value, String.toList_append]) hp (by decide) hv

private theorem operand_hardware {octets : List UInt8} (h : octets ≠ []) :
    Operand (text (.hardware octets)) (.atom (text (.hardware octets))) := by
  have hw : isWord (":".intercalate (octets.map octetText)).toList = true := by
    apply isWord_of_forall
    · obtain ⟨octet, rest, rfl⟩ := List.exists_cons_of_ne_nil h
      have hne : (octetText octet).toList ≠ [] := by
        rw [octetText, String.toList_ofList]
        exact hexDigits_ne_nil 2 _
      cases rest <;> simp [hne]
    · exact fun c hc ↦ isValueChar_of_mem_octets (by decide) hc
  exact operand_of_three (v := "ether".toList) (w := "host".toList)
    (by simp [text, String.toList_append]) (by decide) (by decide) hw

private theorem operand_ethertype (n : Nat) :
    Operand (text (.ethertype n)) (.atom (text (.ethertype n))) := by
  have hw : isWord ("0x".toList ++ hexDigits 4 n) = true :=
    isWord_append (by decide) (by decide) fun _ hc ↦
      isValueChar_of_isHexDigit (isHexDigit_of_mem_hexDigits hc)
  exact operand_of_three (v := "ether".toList) (w := "proto".toList)
    (by simp [text, String.toList_append]) (by decide) (by decide) hw

private theorem operand_comparison (left right : String) (hl : isWord left.toList = true)
    (hr : isWord right.toList = true) :
    Operand (left ++ " = " ++ right) (.atom (left ++ " = " ++ right)) :=
  operand_of_three (w := ['=']) (by simp [String.toList_append]) hl (by decide) hr

private theorem operand_ping : Operand (text .ping) (formula .ping) := by
  have request := operand_comparison "icmp[icmptype]" "icmp-echo" (by decide) (by decide)
  have reply := operand_comparison "icmp[icmptype]" "icmp-echoreply" (by decide) (by decide)
  have request6 := operand_comparison "icmp6[icmp6type]" "icmp6-echo" (by decide) (by decide)
  have reply6 := operand_comparison "icmp6[icmp6type]" "icmp6-echoreply" (by decide) (by decide)
  exact (((request.phrase.join reply .disj).join request6 .disj).join reply6 .disj).parenthesised

private theorem operand_ipsec : Operand (text .ipsec) (formula .ipsec) := by
  have esp := Operand.of_words (s := "esp") ["esp".toList] (by decide) (by decide) (by decide)
  have port := operand_of_three (s := "udp port 4500") (v := "udp".toList) (w := "port".toList)
    (x := "4500".toList) (by decide) (by decide) (by decide) (by decide)
  have marker := operand_of_three (s := "udp[8:4] != 0") (v := "udp[8:4]".toList)
    (w := "!=".toList) (x := "0".toList) (by decide) (by decide) (by decide) (by decide)
  exact (esp.phrase.join (port.phrase.join marker .conj).parenthesised .disj).parenthesised

private theorem operand_hardwareStart (octets : List UInt8) :
    Operand (text (.hardwareStart octets)) (formula (.hardwareStart octets)) := by
  have h := (operand_octetsAt octets 0).phrase.join (operand_octetsAt octets 6) .disj
  have ht : text (.hardwareStart octets) =
      "(" ++ (octetsAt octets 0 ++ Joint.disj.word ++ octetsAt octets 6) ++ ")" := by
    simp [text, hardwareOffsets, Joint.word]
  rw [ht]
  exact h.parenthesised

/-- The text of a fragment reads as its formula wherever an operand is due. -/
theorem operand_text {fragment : Fragment} (h : fragment.Readable) :
    Operand fragment.text fragment.formula := by
  cases fragment with
  | tag depth n => exact operand_tag depth n
  | named known =>
    have hw : isWord known.word.toList = true := by cases known <;> decide
    exact Operand.of_words [known.word.toList] (by simp [text]) (by simp) (by simpa using hw)
  | ethertype n => exact operand_ethertype n
  | ping => exact operand_ping
  | ipsec => exact operand_ipsec
  | protocol n =>
    exact operand_of_two (v := "proto".toList) (by simp [text, String.toList_append]) (by decide)
      (isWord_signedDecimal n)
  | host address =>
    exact operand_of_two (v := "host".toList) (by simp [text, String.toList_append]) (by decide) h
  | network subnet =>
    exact operand_of_two (v := "net".toList) (by simp [text, String.toList_append]) (by decide) h
  | hardware octets => exact operand_hardware h
  | hardwareStart octets => exact operand_hardwareStart octets
  | port n =>
    exact operand_of_two (v := "port".toList) (by simp [text, String.toList_append]) (by decide)
      (isWord_decimal n)

/-! ### Fragments of words of an input -/

section Token

variable {token s : String} (ht : token ∈ words s)
  (hp : '%' ∈ token.toList → '(' ∉ token.toList ∧ ')' ∉ token.toList)

include ht in
private theorem isWordChar_of_mem_token (hp : '(' ∉ token.toList ∧ ')' ∉ token.toList) {c : Char}
    (hc : c ∈ token.toList) : isWordChar c = true := by
  have hb : isBlank c = false := (word_spec ht).2 c hc
  have h : c ≠ ' ' ∧ c ≠ '(' ∧ c ≠ ')' := by
    refine ⟨?_, ?_, ?_⟩
    · rintro rfl
      exact absurd hb (by decide)
    · rintro rfl
      exact hp.1 hc
    · rintro rfl
      exact hp.2 hc
  simp [isWordChar, h]

include ht hp in
/-- An address that has been accepted is a word of the expression too. -/
theorem isWord_of_isAddress (ha : isAddress token = true) : isWord token.toList = true := by
  by_cases hz : '%' ∈ token.toList
  · apply isWord_of_mem hz (by decide)
    exact fun c hc ↦ isWordChar_of_mem_token ht (hp hz) hc
  · apply isWord_of_forall
    · exact fun he ↦ (word_spec ht).1 (String.toList_eq_nil_iff.mp he)
    · exact fun c hc ↦ isValueChar_of_isAddressChar (isAddressChar_of_isAddress ha hz c hc)

include ht hp in
/-- The network form of a subnet that has been accepted is a word of the expression. -/
theorem isWord_text_of_parse? {n : Subnet} (hn : Subnet.parse? token.toList = some n) :
    isWord n.text.toList = true := by
  apply isWord_of_mem (Subnet.slash_mem_text n) (by decide)
  intro c hc
  rcases Subnet.mem_text hc with h | rfl | ⟨zone, hz, h⟩
  · exact isWordChar_of_isValueChar (isValueChar_of_isAddressChar h)
  · decide
  · -- what is behind the percent sign stands in the token, which holds no parenthesis then
    obtain ⟨hm, hzone⟩ := Subnet.zone_of_parse? hn hz
    rcases h with rfl | h
    · decide
    · exact isWordChar_of_mem_token ht (hp hm) (hzone c h)

include ht in
/-- What a word of an input is turned into can be told from the rest of an expression. -/
theorem readable_of_ofToken {table : Protocol.Table} {depth : Fin 10} {field : PacketField}
    {fragment : Fragment} (h : ofToken table depth field token = .ok fragment)
    (hp : field = .address → '%' ∈ token.toList → '(' ∉ token.toList ∧ ')' ∉ token.toList) :
    fragment.Readable := by
  cases field with
  | vlan =>
    obtain ⟨n, rfl, -⟩ := ofTag_eq_ok h
    exact True.intro
  | ethertype =>
    rcases ofEthertype_eq_ok h with ⟨known, rfl⟩ | ⟨n, rfl, -⟩
    · exact True.intro
    · exact True.intro
  | protocol =>
    rcases ofProtocol_eq_ok h with rfl | rfl | ⟨n, rfl⟩
    · exact True.intro
    · exact True.intro
    · exact True.intro
  | address =>
    rcases ofAddress_eq_ok h with ⟨rfl, ha⟩ | ⟨subnet, hs, rfl⟩
    · exact isWord_of_isAddress ht (hp rfl) ha
    · exact isWord_text_of_parse? ht (hp rfl) hs
  | mac =>
    rcases ofHardware_eq_ok h with ⟨octets, rfl, hl⟩ | ⟨octets, rfl, -⟩
    · exact List.ne_nil_of_length_pos (by omega)
    · exact True.intro
  | port =>
    obtain ⟨n, rfl⟩ := ofPort_eq_ok h
    exact True.intro

end Token

end Fragment

/-! ### Criteria -/

namespace Criterion

/-- No address of the input has a parenthesis in its zone. -/
def Legible (c : Criterion) : Prop :=
  c.kind = .packet .address → ∀ token ∈ words (c.input.getD ""),
    '%' ∈ token.toList → '(' ∉ token.toList ∧ ')' ∉ token.toList

variable {c : Criterion}

/-- Criteria without addresses repeat nothing that could hold a parenthesis. -/
theorem legible_of_kind (h : c.kind ≠ .packet .address) : c.Legible := fun hk ↦ absurd hk h

/-- The fragments of a criterion can be told from the rest of an expression. -/
theorem Built.readable (hb : c.Built) (hl : c.Legible) {fragment : Fragment}
    (hm : fragment ∈ c.fragments) : fragment.Readable := by
  obtain ⟨table, field, depth, token, hk, -, ht, h⟩ := hb.exists_token hm
  apply Fragment.readable_of_ofToken ht h
  rintro rfl
  exact hl hk token ht

/-- The filter of a criterion reads as what it asks for. -/
theorem phrase_filter (hr : ∀ fragment ∈ c.fragments, fragment.Readable) {f : Formula}
    (h : c.formula? = some f) : Phrase c.filter f := by
  unfold formula? at h
  dsimp only at h
  rw [filter, Fragment.combine]
  split at h
  · next he =>
    rw [if_pos he]
    rw [List.map_map] at h
    change Phrase (Joint.conj.word.intercalate _) f
    apply Phrase.intercalate _ h
    exact fun fragment hm ↦ (Fragment.operand_text (hr fragment hm)).negated
  · next he =>
    rw [if_neg he]
    split at h
    · next hc =>
      rw [if_pos hc]
      change Phrase (Joint.conj.word.intercalate _) f
      exact Phrase.intercalate (fun fragment hm ↦ Fragment.operand_text (hr fragment hm)) h
    · next hc =>
      rw [if_neg hc]
      change Phrase (Joint.disj.word.intercalate _) f
      exact Phrase.intercalate (fun fragment hm ↦ Fragment.operand_text (hr fragment hm)) h

end Criterion

end CaptureFilter
