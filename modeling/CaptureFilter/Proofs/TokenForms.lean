import CaptureFilter.Proofs.Denotation
import CaptureFilter.Proofs.Patterns
import CaptureFilter.Proofs.TokenFragments

/-!
# The forms of tokens

A token without blanks that is no alias is accepted in a field exactly if it denotes a value there,
and its fragment is that of the value. Two tokens of a field have the same fragment exactly if they
denote the same value.
Spec guidance: `SPEC_FULL.md` §4.1 (token forms of each type).
-/

namespace CaptureFilter.Fragment

open Text Net

/-! ### Plain tokens -/

/-- The fragment that a token of a field has for what it is called. -/
def alias? : PacketField → String → Option Fragment
  | .ethertype, token => (namedEthertype? (lower token)).map .named
  | .protocol, token => namedProtocol? (lower token)
  | _, _ => none

/-- A token of a field that is one word, whose digits can be read, and that is no alias. -/
structure Plain (field : PacketField) (token : String) : Prop where
  /-- It holds no blank. -/
  not_blank : ∀ c ∈ token.toList, isBlank c = false
  /-- It is not a row of too many digits. -/
  not_oversized : ¬ Numeral.Oversized token.toList
  /-- It has no fragment for what it is called. -/
  no_alias : alias? field token = none

variable {table : Protocol.Table} {depth : Fin 10} {token : String} {fragment : Fragment}
  {field : PacketField}

/-- No line feed stands in a plain token. -/
theorem Plain.not_mem (h : Plain field token) : '\n' ∉ token.toList := fun hm ↦
  absurd (h.not_blank _ hm) (by decide)

/-- The digits of a plain token are read. -/
theorem Plain.read_eq (h : Plain field token) (hd : isNumber token.toList = true) :
    Numeral.read token.toList = .ok (Nat.ofDigitChars 10 token.toList 0) :=
  Numeral.read_of_isNumber hd (Nat.le_of_not_lt fun hlt ↦ h.not_oversized ⟨hd, hlt⟩)

/-- The digits of a plain token are its number. -/
theorem Plain.number_eq (h : Plain field token) (hd : isNumber token.toList = true) :
    number token = .ok (Nat.ofDigitChars 10 token.toList 0) := by
  rw [number, h.read_eq hd]
  rfl

/-! ### Decimal tokens -/

/-- A tag number is accepted exactly if it denotes one. -/
theorem ofTag_eq_ok_iff (h : Plain .vlan token) :
    ofTag depth token = .ok fragment ↔
      ∃ v, Denotes table depth .vlan token v ∧ fragment = v.fragment depth .vlan := by
  have hnumber (hd : isNumber token.toList = true) : ofTag depth token =
      if 4095 < Nat.ofDigitChars 10 token.toList 0 then refuse .vlanTag token
      else if depth.val = 0 then refuse .vlanTagUntagged token
      else .ok (.tag depth (Nat.ofDigitChars 10 token.toList 0)) := by
    rw [ofTag, if_pos hd, h.number_eq hd]
    rfl
  constructor
  · intro hx
    by_cases hd : isNumber token.toList = true
    · rw [hnumber hd] at hx
      split at hx
      · cases hx
      · next hn =>
        split at hx
        · cases hx
        · next h0 =>
          cases hx
          exact ⟨_, .tag ⟨hd, rfl⟩ (Nat.le_of_not_lt hn) (Nat.one_le_iff_ne_zero.mpr h0), rfl⟩
    · rw [ofTag, if_neg hd] at hx
      cases hx
  · rintro ⟨v, hv, rfl⟩
    cases hv with
    | tag hdecimal hn hpos =>
      obtain ⟨hd, rfl⟩ := hdecimal
      rw [hnumber hd, if_neg (Nat.not_lt_of_le hn), if_neg (Nat.one_le_iff_ne_zero.mp hpos)]
      rfl

private theorem isPort_of_plain (h : Plain .port token) :
    isPort token = .ok (decide (IsPortNumber token.toList)) := by
  rw [isPort_eq, dropFinalLineFeed_of_not_mem h.not_mem]
  split
  · next hd => rw [if_neg fun hl ↦ h.not_oversized ⟨hd, hl⟩]
  · next hd => rw [decide_eq_false fun hp ↦ hd hp.isNumber]

/-- A port is accepted exactly if it denotes one. -/
theorem ofPort_eq_ok_iff (h : Plain .port token) :
    ofPort token = .ok fragment ↔
      ∃ v, Denotes table depth .port token v ∧ fragment = v.fragment depth .port := by
  rw [ofPort, isPort_of_plain h]
  constructor
  · intro hx
    obtain ⟨b, hb, hx⟩ := bind_eq_ok_iff.mp hx
    cases hb
    split at hx
    · next hport =>
      obtain ⟨hd, hlo, hhi⟩ := decide_eq_true_iff.mp hport
      rw [h.number_eq hd] at hx
      cases hx
      exact ⟨_, .port ⟨hd, rfl⟩ hlo hhi, rfl⟩
    · cases hx
  · rintro ⟨v, hv, rfl⟩
    cases hv with
    | port hdecimal hlo hhi =>
      obtain ⟨hd, rfl⟩ := hdecimal
      rw [decide_eq_true ⟨hd, hlo, hhi⟩, h.number_eq hd]
      rfl

/-- A protocol is accepted exactly if it denotes a number. -/
theorem ofProtocol_eq_ok_iff (h : Plain .protocol token) :
    ofProtocol table token = .ok fragment ↔
      ∃ v, Denotes table depth .protocol token v ∧ fragment = v.fragment depth .protocol := by
  have hno : namedProtocol? (lower token) = none := h.no_alias
  by_cases hd : isNumber token.toList = true
  · have hnumber : ofProtocol table token =
        if 255 < Nat.ofDigitChars 10 token.toList 0 then refuse .protocolNumber token
        else .ok (.protocol (Nat.ofDigitChars 10 token.toList 0)) := by
      rw [ofProtocol, ProtocolToken.of, hno]
      simp only [hd, if_true, h.number_eq hd]
      rfl
    rw [hnumber]
    constructor
    · intro hx
      split at hx
      · cases hx
      · next hn =>
        cases hx
        exact ⟨_, .protocol ⟨hd, rfl⟩ (Nat.le_of_not_lt hn), rfl⟩
    · rintro ⟨v, hv, rfl⟩
      cases hv with
      | protocol hdecimal hn =>
        obtain ⟨-, rfl⟩ := hdecimal
        rw [if_neg (Nat.not_lt_of_le hn)]
        rfl
      | protocolName hname _ _ => exact absurd hd (Bool.eq_false_iff.mp hname)
  · have hname : ofProtocol table token =
        (table.lookup token).elim (refuse .protocol token) ofListed := by
      rw [ofProtocol, ProtocolToken.of, hno]
      simp only [hd]
      cases table.lookup token <;> rfl
    rw [hname]
    constructor
    · intro hx
      cases hn : table.lookup token with
      | none =>
        rw [hn] at hx
        cases hx
      | some n =>
        rw [hn, Option.elim_some] at hx
        by_cases hw : Numeral.Unwritable n
        · rw [ofListed_of_unwritable hw] at hx
          cases hx
        · rw [ofListed_of_not_unwritable hw] at hx
          cases hx
          exact ⟨_, .protocolName (Bool.eq_false_iff.mpr hd) hn hw, rfl⟩
    · rintro ⟨v, hv, rfl⟩
      cases hv with
      | protocol hdecimal _ => exact absurd hdecimal.1 hd
      | protocolName _ hn hw =>
        rw [hn, Option.elim_some, ofListed_of_not_unwritable hw]
        rfl

/-! ### Hexadecimal tokens -/

private theorem ascii_of_isHexRow {most : Nat} {digits : List Char} (h : IsHexRow most digits) :
    ∀ c ∈ digits, c.toNat < 0x80 := fun c hc ↦
  Nat.lt_trans (toNat_lt_of_isHexDigit (h.isHexDigit c hc)) (by decide)

private theorem isMac_of_not_mem (h : '\n' ∉ token.toList) :
    isMac true token = true ↔
      (∀ group ∈ token.toList.splitOn ':', IsHexRow 2 group) ∧
        (token.toList.splitOn ':').length ≤ 6 := by
  rw [isMac_iff, isGroups_trailed_iff h, isGroups_iff fun _ hd ↦ hd.not_mem (by decide)]
  exact and_congr_right fun _ ↦ and_iff_left nofun

private theorem map_octetsOf (h : ∀ group ∈ token.toList.splitOn ':', IsHexRow 2 group) :
    (octetsOf token).map UInt8.toNat = (token.toList.splitOn ':').map ofHexDigits := by
  rw [octetsOf, List.map_map]
  exact List.map_congr_left fun group hg ↦
    UInt8.toNat_ofNat_of_lt' (ofHexDigits_lt (h group hg).le_most)

private theorem splitOn_of_isHexRow {groups : List (List Char)} {most : Nat} (hne : groups ≠ [])
    (h : ∀ group ∈ groups, IsHexRow most group) :
    ([':'].intercalate groups).splitOn ':' = groups := by
  exact List.splitOn_intercalate ':' (fun group hg ↦ (h group hg).not_mem (by decide)) hne

private theorem ofHardware_eq (depth : Fin 10) (token : String) :
    ofHardware token =
      if isMac true token then
        if (octetsOf token).length ∈ [1, 2, 4, 6] then
          .ok ((Value.octets (octetsOf token)).fragment depth .mac)
        else refuse .macLength token
      else refuse .mac token := by
  rw [ofHardware]
  dsimp only [Value.fragment]
  generalize octetsOf token = octets
  split
  · by_cases hsix : octets.length = 6
    · simp [hsix, pure, Except.pure]
    · by_cases hl : octets.length ∈ [1, 2, 4]
      · have hmem : octets.length ∈ [1, 2, 4, 6] := by
          simp only [List.mem_cons, List.not_mem_nil, or_false] at hl ⊢
          omega
        rw [if_neg hsix, if_pos (List.contains_iff_mem.mpr hl), if_pos hmem, if_neg hsix]
        rfl
      · have hmem : octets.length ∉ [1, 2, 4, 6] := by
          simp only [List.mem_cons, List.not_mem_nil, or_false] at hl ⊢
          omega
        rw [if_neg hsix, if_neg (fun hc ↦ hl (List.contains_iff_mem.mp hc)), if_neg hmem]
  · rfl

/-- A hardware address or its beginning is accepted exactly if it denotes octets. -/
theorem ofHardware_eq_ok_iff (h : Plain .mac token) :
    ofHardware token = .ok fragment ↔
      ∃ v, Denotes table depth .mac token v ∧ fragment = v.fragment depth .mac := by
  have hlength : (octetsOf token).length = (token.toList.splitOn ':').length := by
    rw [octetsOf, List.length_map]
  rw [ofHardware_eq depth, hlength]
  constructor
  · intro hx
    split at hx
    · next hmac =>
      obtain ⟨hrows, -⟩ := (isMac_of_not_mem h.not_mem).mp hmac
      split at hx
      · next hl =>
        cases hx
        exact ⟨_, .hardware (List.intercalate_splitOn ':').symm hl hrows (map_octetsOf hrows), rfl⟩
      · cases hx
    · cases hx
  · rintro ⟨v, hv, rfl⟩
    cases hv with
    | @hardware _ groups octets ht hl hg ho =>
      have hne : groups ≠ [] := by
        rintro rfl
        exact absurd hl (by decide)
      have hsplit : token.toList.splitOn ':' = groups := by
        rw [ht, splitOn_of_isHexRow hne hg]
      have hrows : ∀ group ∈ token.toList.splitOn ':', IsHexRow 2 group := hsplit ▸ hg
      have hoctets : octetsOf token = octets := by
        have hvalues := map_octetsOf hrows
        rw [hsplit, ← ho] at hvalues
        exact (List.map_inj_right fun _ _ ↦ UInt8.toNat_inj.mp).mp hvalues
      have hmost : groups.length ≤ 6 := by
        simp only [List.mem_cons, List.not_mem_nil, or_false] at hl
        omega
      rw [if_pos ((isMac_of_not_mem h.not_mem).mpr ⟨hrows, hsplit ▸ hmost⟩), hsplit, if_pos hl,
        hoctets]

/-! ### Ethertypes -/

private theorem isEthertype_of_not_mem {s : String} {rest : List Char}
    (hs : s.toList = '0' :: 'x' :: rest) (h : '\n' ∉ rest) :
    isEthertype s = true ↔ IsHexRow 4 rest := by
  have hno : '\n' ∉ s.toList := by simpa [hs] using h
  rw [isEthertype_iff, trailed_iff_of_not_mem hno, hs, IsEthertypeNumber]
  simp

private theorem ascii_of_isEthertype (h : isEthertype (withMarker token) = true) :
    ∀ c ∈ token.toList, c.toNat < 0x80 := by
  have hwhole : ∀ c ∈ (lower token).toList, c ∈ (withMarker token).toList := by
    intro c hc
    rw [withMarker]
    split
    · exact hc
    · rw [String.toList_append]
      exact List.mem_append_right _ hc
  have hform (s : List Char) (hs : IsEthertypeNumber s) :
      ∀ c ∈ s, c.toNat < 0x80 ∧ c ≠ 'i' ∧ c ≠ 'k' := by
    obtain ⟨digits, rfl, hd⟩ := hs
    intro c hc
    rcases List.mem_cons.mp hc with rfl | hc
    · decide
    rcases List.mem_cons.mp hc with rfl | hc
    · decide
    have hlt := toNat_lt_of_isHexDigit (hd.isHexDigit c hc)
    refine ⟨by omega, ?_, ?_⟩ <;> rintro rfl <;> exact absurd hlt (by decide)
  have hall : ∀ c ∈ (withMarker token).toList, c.toNat < 0x80 ∧ c ≠ 'i' ∧ c ≠ 'k' := by
    rcases isEthertype_iff.mp h with hs | ⟨s, hs, hnumber⟩
    · exact hform _ hs
    · rw [hs]
      intro c hc
      rcases List.mem_append.mp hc with hc | hc
      · exact hform s hnumber c hc
      · rw [List.mem_singleton.mp hc]
        decide
  rw [lower, String.toList_ofList] at hwhole
  exact ascii_of_lowerAfter fun c hc ↦ hall c (hwhole c hc)

private theorem exists_marker (h : ∀ c ∈ token.toList, c.toNat < 0x80) :
    ∃ marker digits, token.toList = marker ++ digits ∧ marker ∈ [[], ['0', 'x'], ['0', 'X']] ∧
      (withMarker token).toList = '0' :: 'x' :: digits.map lowerChar := by
  rw [withMarker]
  split
  · next hprefix =>
    obtain ⟨rest, hrest⟩ := List.isPrefixOf_iff_prefix.mp hprefix
    have hlow : (lower token).toList = '0' :: 'x' :: rest := hrest.symm
    have hmap := hlow
    rw [toList_lower_of_ascii h] at hmap
    obtain ⟨zero, tail, htoken, hzero, htail⟩ := List.map_eq_cons_iff.mp hmap
    obtain ⟨x, digits, rfl, hx, hdigits⟩ := List.map_eq_cons_iff.mp htail
    have h0 : zero = '0' := by
      rw [← lowerChar_eq_self (c := zero) (by rw [hzero]; decide), hzero]
    have hcase : x = 'x' ∨ x = 'X' :=
      (lowerChar_eq_x_iff (h x (by rw [htoken]; simp))).mp hx
    refine ⟨[zero, x], digits, htoken, ?_, ?_⟩
    · rcases hcase with rfl | rfl <;> simp [h0]
    · rw [hlow, hdigits]
  · refine ⟨[], token.toList, rfl, by simp, ?_⟩
    rw [String.toList_append, toList_lower_of_ascii h]
    rfl

private theorem toList_withMarker {marker digits : List Char} {most : Nat}
    (ht : token.toList = marker ++ digits) (hm : marker ∈ [[], ['0', 'x'], ['0', 'X']])
    (hd : IsHexRow most digits) :
    (withMarker token).toList = '0' :: 'x' :: digits.map lowerChar := by
  have hascii : ∀ c ∈ token.toList, c.toNat < 0x80 := by
    have hmarker : ∀ marker ∈ [[], ['0', 'x'], ['0', 'X']],
        marker.all (fun c ↦ decide (c.toNat < 0x80)) = true := by decide
    intro c hc
    rw [ht] at hc
    rcases List.mem_append.mp hc with hc | hc
    · exact decide_eq_true_eq.mp (List.all_eq_true.mp (hmarker marker hm) c hc)
    · exact ascii_of_isHexRow hd c hc
  have hlow := toList_lower_of_ascii hascii
  rw [ht, List.map_append] at hlow
  rw [withMarker]
  simp only [List.mem_cons, List.not_mem_nil, or_false] at hm
  rcases hm with rfl | hm
  · have hprefix : ¬ ['0', 'x'].isPrefixOf (lower token).toList = true := by
      intro hp
      have hx : 'x' ∈ digits.map lowerChar := by
        have hin := (List.isPrefixOf_iff_prefix.mp hp).subset (List.mem_cons_of_mem '0'
          (List.mem_singleton.mpr rfl))
        rwa [hlow] at hin
      obtain ⟨c, hc, he⟩ := List.mem_map.mp hx
      have hdigit := isHexDigit_lowerChar (ascii_of_isHexRow hd c hc)
      rw [he, hd.isHexDigit c hc] at hdigit
      exact absurd hdigit (by decide)
    rw [if_neg hprefix, String.toList_append, hlow]
    rfl
  · have hmarker : marker.map lowerChar = ['0', 'x'] := by
      rcases hm with rfl | rfl <;> decide
    rw [hmarker] at hlow
    rw [if_pos (by rw [hlow]; rfl), hlow]
    rfl

private theorem isHexRow_map_lowerChar {most : Nat} {digits : List Char}
    (h : ∀ c ∈ digits, c.toNat < 0x80) :
    IsHexRow most (digits.map lowerChar) ↔ IsHexRow most digits := by
  have hall : (∀ c ∈ digits.map lowerChar, isHexDigit c = true) ↔
      ∀ c ∈ digits, isHexDigit c = true := by
    rw [List.forall_mem_map]
    exact forall₂_congr fun c hc ↦ by rw [isHexDigit_lowerChar (h c hc)]
  constructor
  · rintro ⟨hlo, hhi, hd⟩
    rw [List.length_map] at hlo hhi
    exact ⟨hlo, hhi, hall.mp hd⟩
  · rintro ⟨hlo, hhi, hd⟩
    rw [← List.length_map lowerChar] at hlo hhi
    exact ⟨hlo, hhi, hall.mpr hd⟩

/-- An ethertype is accepted exactly if it denotes a number. -/
theorem ofEthertype_eq_ok_iff (h : Plain .ethertype token) :
    ofEthertype token = .ok fragment ↔
      ∃ v, Denotes table depth .ethertype token v ∧ fragment = v.fragment depth .ethertype := by
  have hno : namedEthertype? (lower token) = none := Option.map_eq_none_iff.mp h.no_alias
  have hform {marker digits : List Char} (ht : token.toList = marker ++ digits)
      (hw : (withMarker token).toList = '0' :: 'x' :: digits.map lowerChar)
      (hascii : ∀ c ∈ digits, c.toNat < 0x80) :
      (isEthertype (withMarker token) = true ↔ IsHexRow 4 digits) ∧
        ofHexDigits ((withMarker token).toList.drop 2) = ofHexDigits digits := by
    have hfeed : '\n' ∉ digits.map lowerChar := by
      intro hm
      obtain ⟨c, hc, he⟩ := List.mem_map.mp hm
      rw [eq_lineFeed_of_lowerChar (hascii c hc) he] at hc
      exact h.not_mem (by rw [ht]; exact List.mem_append_right _ hc)
    refine ⟨(isEthertype_of_not_mem hw hfeed).trans (isHexRow_map_lowerChar hascii), ?_⟩
    rw [hw]
    exact ofHexDigits_map_lowerChar hascii
  rw [ofEthertype, hno]
  dsimp only
  constructor
  · intro hx
    split at hx
    · next htype =>
      have hascii := ascii_of_isEthertype htype
      obtain ⟨marker, digits, ht, hm, hw⟩ := exists_marker hascii
      obtain ⟨hrow, hvalue⟩ := hform ht hw fun c hc ↦
        hascii c (by rw [ht]; exact List.mem_append_right _ hc)
      rw [hvalue] at hx
      split at hx
      · cases hx
      · next hn =>
        cases hx
        have hother : ofHexDigits digits ∉ [0x8100, 0x88A8] := fun hin ↦
          hn (List.contains_iff_mem.mpr hin)
        exact ⟨_, .ethertype ht hm (hrow.mp htype) hother, rfl⟩
    · cases hx
  · rintro ⟨v, hv, rfl⟩
    cases hv with
    | @ethertype _ marker digits ht hm hd hn =>
      obtain ⟨hrow, hvalue⟩ := hform ht (toList_withMarker ht hm hd) (ascii_of_isHexRow hd)
      have hother : ¬ tagEthertypes.contains (ofHexDigits digits) = true := fun hc ↦
        hn (List.contains_iff_mem.mp hc)
      rw [if_pos (hrow.mpr hd), hvalue, if_neg hother]
      rfl

/-! ### Tokens of all fields -/

/-- A plain token of a field other than addresses is accepted exactly if it denotes a value, and
its fragment is that of the value. -/
theorem ofToken_eq_ok_iff (hf : field ≠ .address) (h : Plain field token) :
    ofToken table depth field token = .ok fragment ↔
      ∃ v, Denotes table depth field token v ∧ fragment = v.fragment depth field := by
  cases field with
  | vlan => exact ofTag_eq_ok_iff h
  | ethertype => exact ofEthertype_eq_ok_iff h
  | protocol => exact ofProtocol_eq_ok_iff h
  | address => exact absurd rfl hf
  | mac => exact ofHardware_eq_ok_iff h
  | port => exact ofPort_eq_ok_iff h

/-- A plain token of a field other than addresses is accepted exactly if it denotes a value. Two of
them have the same text exactly if they denote the same value. One, two or four octets are compared
at the beginning of either hardware address, as one number in two digits for each octet. -/
theorem token_forms_canonical (table : Protocol.Table) (depth : Fin 10) {field : PacketField}
    (hf : field ≠ .address) {s t : String} (hs : Plain field s) (ht : Plain field t) :
    ((∃ x, ofToken table depth field s = .ok x) ↔ ∃ v, Denotes table depth field s v) ∧
      (∀ x y v w, ofToken table depth field s = .ok x → ofToken table depth field t = .ok y →
        Denotes table depth field s v → Denotes table depth field t w →
          (x.text = y.text ↔ v = w)) ∧
      ∀ x octets, ofToken table depth field s = .ok x →
        Denotes table depth field s (.octets octets) → octets.length ∈ [1, 2, 4] →
          (hexDigits (2 * octets.length) (bigEndian octets)).length = 2 * octets.length ∧
            x.text =
              "(ether[0:" ++ decimal octets.length ++ "] = 0x" ++
                  String.ofList (hexDigits (2 * octets.length) (bigEndian octets)) ++
                " or ether[6:" ++ decimal octets.length ++ "] = 0x" ++
                  String.ofList (hexDigits (2 * octets.length) (bigEndian octets)) ++ ")" := by
  have heq {token : String} (h : Plain field token) {x : Fragment} {v : Value}
      (hx : ofToken table depth field token = .ok x) (hv : Denotes table depth field token v) :
      x = v.fragment depth field := by
    have hok := (ofToken_eq_ok_iff hf h).mpr ⟨v, hv, rfl⟩
    rw [hx] at hok
    exact Except.ok.inj hok
  refine ⟨?_, ?_, ?_⟩
  · constructor
    · rintro ⟨x, hx⟩
      obtain ⟨v, hv, -⟩ := (ofToken_eq_ok_iff hf hs).mp hx
      exact ⟨v, hv⟩
    · rintro ⟨v, hv⟩
      exact ⟨_, (ofToken_eq_ok_iff hf hs).mpr ⟨v, hv, rfl⟩⟩
  · intro x y v w hx hy hv hw
    rw [heq hs hx hv, heq ht hy hw]
    constructor
    · exact hv.text_inj hw
    · rintro rfl
      rfl
  · intro x octets hx hv hl
    have hfragment : x = (Value.octets octets).fragment depth field := heq hs hx hv
    cases hv with
    | hardware _ _ _ _ =>
      have hsix : octets.length ≠ 6 := by
        intro h6
        rw [h6] at hl
        exact absurd hl (by decide)
      have hne : octets ≠ [] := by
        rintro rfl
        exact absurd hl (by decide)
      rw [hfragment, Value.fragment, if_neg hsix]
      refine ⟨?_, text_hardwareStart hne⟩
      rw [← flatMap_hexDigits hne, length_flatMap_hexDigits]

/-- The tokens of two octets, written shorter and in capitals, that are compared alike. -/
theorem shortened_octets_canonical :
    ∃ x y, ofToken .empty 1 .mac "0a:B" = .ok x ∧ ofToken .empty 1 .mac "A:0b" = .ok y ∧
      x.text = y.text ∧ x.text = "(ether[0:2] = 0x0a0b or ether[6:2] = 0x0a0b)" := by
  have hplain {token : String} (hb : token.toList.any isBlank = false)
      (hd : isNumber token.toList = false) : Plain .mac token :=
    ⟨fun c hc ↦ Bool.eq_false_iff.mpr (List.any_eq_false.mp hb c hc),
      fun ho ↦ absurd ho.1 (Bool.eq_false_iff.mp hd), rfl⟩
  have hs : Plain .mac "0a:B" := hplain (by decide) (by decide)
  have ht : Plain .mac "A:0b" := hplain (by decide) (by decide)
  have hrows : ∀ group ∈ [['0', 'a'], ['B']], IsHexRow 2 group := by decide
  have hrows' : ∀ group ∈ [['A'], ['0', 'b']], IsHexRow 2 group := by decide
  have hv : Denotes .empty 1 .mac "0a:B" (.octets [0x0A, 0x0B]) :=
    .hardware (by decide) (by decide) hrows (by decide)
  have hw : Denotes .empty 1 .mac "A:0b" (.octets [0x0A, 0x0B]) :=
    .hardware (by decide) (by decide) hrows' (by decide)
  obtain ⟨haccepts, hsame, htext⟩ := token_forms_canonical .empty 1 (by decide) hs ht
  obtain ⟨haccepts', -, -⟩ := token_forms_canonical .empty 1 (by decide) ht hs
  obtain ⟨x, hx⟩ := haccepts.mpr ⟨_, hv⟩
  obtain ⟨y, hy⟩ := haccepts'.mpr ⟨_, hw⟩
  refine ⟨x, y, hx, hy, (hsame x y _ _ hx hy hv hw).mpr rfl, ?_⟩
  rw [(htext x _ hx hv (by decide)).2]
  decide

end CaptureFilter.Fragment
