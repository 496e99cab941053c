import CaptureFilter.Proofs.AddressText

/-!
# Addresses read back

The text of an address is read as that address: four octets, or groups around the longest run of
zero groups, which are as many as the gap leaves out. A zone that has been read is read again.
Spec guidance: `SPEC_FULL.md` §6 (`is_ip_address`, `subnet_network`).
-/

namespace CaptureFilter.Net

open Text

namespace IPv4

private theorem octet?_decimal : ∀ n < 256, octet? (decimal n).toList = some n := by
  decide +kernel

private theorem ofOctets_octets (a : IPv4) :
    ofOctets (a.toNat / 0x1000000) (a.toNat / 0x10000 % 256) (a.toNat / 0x100 % 256)
      (a.toNat % 256) = a := by
  apply BitVec.eq_of_toNat_eq
  have hlt : a.toNat < 2 ^ 32 := a.isLt
  rw [ofOctets, BitVec.toNat_ofNat]
  omega

/-- An IPv4 address is read back from its text. -/
theorem parse?_text (a : IPv4) : parse? a.text.toList = some a := by
  have hpoint : ∀ part ∈ a.octets.map (fun n ↦ (decimal n).toList), '.' ∉ part := by
    intro part hp hm
    obtain ⟨n, -, rfl⟩ := List.mem_map.mp hp
    exact absurd (isDigit_of_mem_decimal hm) (by decide)
  have hsplit : a.text.toList.splitOn '.' = a.octets.map fun n ↦ (decimal n).toList := by
    rw [text, String.toList_intercalate, List.map_map]
    exact List.splitOn_intercalate '.' hpoint (by simp [octets])
  have hlt : a.toNat < 2 ^ 32 := a.isLt
  rw [parse?, hsplit]
  simp only [octets, List.map_cons, List.map_nil]
  rw [octet?_decimal _ (by omega), octet?_decimal _ (by omega), octet?_decimal _ (by omega),
    octet?_decimal _ (by omega)]
  exact congrArg some (ofOctets_octets a)

end IPv4

namespace IPv6

/-! ### Groups -/

private theorem length_groups (a : IPv6) : a.groups.length = 8 := by
  rw [groups, List.length_map, List.length_range]

private theorem group_lt {a : IPv6} {n : Nat} (h : n ∈ a.groups) : n < 0x10000 := by
  obtain ⟨i, -, rfl⟩ := List.mem_map.mp h
  exact BitVec.isLt _

private theorem ofGroups_groups (a : IPv6) : ofGroups a.groups = a := by
  apply BitVec.eq_of_toNat_eq
  have hlt : a.toNat < 2 ^ 128 := a.isLt
  simp only [ofGroups, groups, BitVec.toNat_ofNat, List.range, List.range.loop, List.map_cons,
    List.map_nil, List.foldl_cons, List.foldl_nil, BitVec.extractLsb'_toNat,
    Nat.shiftRight_eq_div_pow]
  omega

private theorem group?_hexDigits {n : Nat} (h : n < 0x10000) : group? (hexDigits 1 n) = some n := by
  have hdigits : hexDigits 1 n = Nat.toDigits 16 n := by
    rw [hexDigits, List.leftpad, Nat.sub_eq_zero_of_le Nat.length_toDigits_pos]
    rfl
  have hmost : (hexDigits 1 n).length ≤ 4 := by
    rw [hdigits]
    exact (Nat.length_toDigits_le_iff (by decide) (by decide)).mpr h
  have hone : 1 ≤ (hexDigits 1 n).length := List.length_pos_iff.mpr (hexDigits_ne_nil 1 n)
  have hall : (hexDigits 1 n).all isHexDigit = true :=
    List.all_eq_true.mpr fun c hc ↦ isHexDigit_of_mem_hexDigits hc
  rw [group?, if_pos ⟨hone, hmost, hall⟩, ofHexDigits_hexDigits]

private theorem mapM_group?_hexDigits {ns : List Nat} (h : ∀ n ∈ ns, n < 0x10000) :
    (ns.map (hexDigits 1)).mapM group? = some ns := by
  induction ns with
  | nil => rfl
  | cons n rest ih =>
    rw [List.map_cons, List.mapM_cons, group?_hexDigits (h n List.mem_cons_self),
      ih fun m hm ↦ h m (List.mem_cons_of_mem n hm)]
    rfl

private theorem toList_groupsText (ns : List Nat) :
    (groupsText ns).toList = [':'].intercalate (ns.map (hexDigits 1)) := by
  rw [groupsText, String.toList_intercalate, List.map_map]
  congr 1
  exact List.map_congr_left fun n _ ↦ String.toList_ofList

private theorem not_mem_group {ns : List Nat} {c : Char} (hc : isHexDigit c = false) :
    ∀ part ∈ ns.map (hexDigits 1), c ∉ part := by
  intro part hp hm
  obtain ⟨n, -, rfl⟩ := List.mem_map.mp hp
  rw [isHexDigit_of_mem_hexDigits hm] at hc
  cases hc

private theorem splitOn_groupsText {ns : List Nat} (h : ns ≠ []) :
    (groupsText ns).toList.splitOn ':' = ns.map (hexDigits 1) := by
  rw [toList_groupsText]
  exact List.splitOn_intercalate ':' (not_mem_group (by decide)) (by simpa using h)

private theorem groupsText_isEmpty {ns : List Nat} (h : ns ≠ []) :
    (groupsText ns).toList.isEmpty = false := by
  obtain ⟨n, rest, rfl⟩ := List.exists_cons_of_ne_nil h
  rw [toList_groupsText, List.isEmpty_eq_false_iff]
  intro hnil
  obtain ⟨c, others, hc⟩ := List.exists_cons_of_ne_nil (hexDigits_ne_nil 1 n)
  have hm : c ∈ [':'].intercalate ((n :: rest).map (hexDigits 1)) :=
    mem_intercalate_of_mem (List.mem_map_of_mem List.mem_cons_self) (by simp [hc])
  rw [hnil] at hm
  cases hm

/-- Groups are read back from their text. -/
private theorem groups?_groupsText {ns : List Nat} (h : ∀ n ∈ ns, n < 0x10000) :
    groups? (groupsText ns).toList = some ns := by
  by_cases hn : ns = []
  · subst hn
    rfl
  · rw [groups?, groupsText_isEmpty hn, if_neg (by simp), splitOn_groupsText hn,
      mapM_group?_hexDigits h]

private theorem lastGroups?_groupsText {ns : List Nat} (h : ∀ n ∈ ns, n < 0x10000) :
    lastGroups? (groupsText ns).toList = some ns := by
  by_cases hn : ns = []
  · subst hn
    rfl
  · have hpoint : (((ns.map (hexDigits 1)).getLast?.getD []).contains '.') = false := by
      rw [List.getLast?_eq_some_getLast (by simpa using hn), Option.getD_some]
      apply Bool.eq_false_iff.mpr
      intro hm
      exact not_mem_group (by decide) _ (List.getLast_mem _) (List.contains_iff_mem.mp hm)
    rw [lastGroups?, groupsText_isEmpty hn, if_neg (by simp), splitOn_groupsText hn]
    dsimp only
    rw [hpoint, if_neg (by simp), mapM_group?_hexDigits h]

/-! ### The gap -/

private theorem cutGap_append {part : List Char} (h : ':' ∉ part) (rest : List Char) :
    cutGap (part ++ rest) = (part ++ (cutGap rest).1, (cutGap rest).2) := by
  induction part with
  | nil => rfl
  | cons c others ih =>
    simp only [List.mem_cons, not_or] at h
    rw [List.cons_append, cutGap, ih h.2]
    · rfl
    · rintro _ rfl
      exact absurd rfl h.1

/-- A text without a colon has no two of them in a row. -/
theorem cutGap_of_not_mem {s : List Char} (h : ':' ∉ s) : cutGap s = (s, none) := by
  simpa [cutGap] using cutGap_append h []

private theorem cutGap_colon {rest : List Char} (h : rest.head? ≠ some ':') :
    cutGap (':' :: rest) = (':' :: (cutGap rest).1, (cutGap rest).2) := by
  rw [cutGap]
  rintro others - rfl
  exact h rfl

private theorem cutGap_intercalate {parts : List (List Char)}
    (h : ∀ part ∈ parts, part ≠ [] ∧ ':' ∉ part) (tail : List Char) :
    cutGap ([':'].intercalate parts ++ tail) =
      ([':'].intercalate parts ++ (cutGap tail).1, (cutGap tail).2) := by
  induction parts with
  | nil => rfl
  | cons part rest ih =>
    have hpart := h part List.mem_cons_self
    cases rest with
    | nil => simpa using cutGap_append hpart.2 tail
    | cons next others =>
      have hnext := h next (List.mem_cons_of_mem part List.mem_cons_self)
      obtain ⟨c, digits, rfl⟩ := List.exists_cons_of_ne_nil hnext.1
      have hhead : ([':'].intercalate ((c :: digits) :: others) ++ tail).head? ≠ some ':' := by
        have hc : c ≠ ':' := fun he ↦ hnext.2 (by simp [he])
        cases others <;> simpa [List.intercalate_cons_cons] using hc
      rw [List.intercalate_cons_cons, List.append_assoc, List.append_assoc, List.singleton_append,
        cutGap_append hpart.2, cutGap_colon hhead, ih fun p hp ↦ h p (List.mem_cons_of_mem part hp)]
      simp

/-- The first two colons in a row do not stand among groups. -/
private theorem cutGap_groupsText (ns : List Nat) (tail : List Char) :
    cutGap ((groupsText ns).toList ++ tail) =
      ((groupsText ns).toList ++ (cutGap tail).1, (cutGap tail).2) := by
  rw [toList_groupsText]
  refine cutGap_intercalate (fun part hp ↦ ⟨?_, not_mem_group (by decide) part hp⟩) tail
  obtain ⟨n, -, rfl⟩ := List.mem_map.mp hp
  exact hexDigits_ne_nil 1 n

private theorem takeWhile_eq_replicate (ns : List Nat) :
    ns.takeWhile (· == 0) = List.replicate (leadingZeros ns) 0 := by
  rw [leadingZeros, List.eq_replicate_iff]
  refine ⟨rfl, fun n hn ↦ ?_⟩
  exact eq_of_beq (List.all_eq_true.mp List.all_takeWhile n hn)

/-- The gap lies within the groups, and those that it leaves out are zero. -/
private theorem longestGap_spec (ns : List Nat) :
    (longestGap ns).1 + (longestGap ns).2 ≤ ns.length ∧
      (ns.drop (longestGap ns).1).take (longestGap ns).2 =
        List.replicate (longestGap ns).2 0 := by
  rw [longestGap]
  refine List.foldlRecOn (motive := fun best : Nat × Nat ↦ best.1 + best.2 ≤ ns.length ∧
    (ns.drop best.1).take best.2 = List.replicate best.2 0) _ _ (by simp) ?_
  intro best hbest i hi
  dsimp only
  split
  · have hprefix : (ns.drop i).takeWhile (· == 0) <+: ns.drop i := List.takeWhile_prefix _
    have hle := hprefix.length_le
    rw [List.length_drop] at hle
    have hi := List.mem_range.mp hi
    refine ⟨?_, ?_⟩
    · change i + ((ns.drop i).takeWhile (· == 0)).length ≤ ns.length
      omega
    · dsimp only
      rw [← takeWhile_eq_replicate]
      exact (List.prefix_iff_eq_take.mp hprefix).symm
  · exact hbest

/-- A text without a colon is no IPv6 address. -/
theorem parse?_of_not_mem {s : List Char} (h : ':' ∉ s) : parse? s = none := by
  have hfew (ns : List Nat) (hns : lastGroups? s = some ns) : ns.length ≠ 8 := by
    unfold lastGroups? at hns
    rw [List.splitOn_eq_singleton h] at hns
    split at hns
    · cases hns
      decide
    · dsimp only at hns
      split at hns
      · obtain ⟨tail, -, hns⟩ := Option.bind_eq_some_iff.mp hns
        cases hns
        simp
      · rw [List.mapM_cons] at hns
        obtain ⟨n, -, hns⟩ := Option.bind_eq_some_iff.mp hns
        cases hns
        simp
  rw [parse?, cutGap_of_not_mem h]
  dsimp only
  cases hns : lastGroups? s with
  | none => rfl
  | some ns => exact if_neg (hfew ns hns)

/-- An IPv6 address is read back from its text. -/
theorem parse?_text (a : IPv6) : parse? a.text.toList = some a := by
  have hlt : ∀ n ∈ a.groups, n < 0x10000 := fun n hn ↦ group_lt hn
  unfold text
  obtain ⟨hle, hzero⟩ := longestGap_spec a.groups
  generalize longestGap a.groups = gap at hle hzero
  obtain ⟨first, length⟩ := gap
  dsimp only at hle hzero ⊢
  rw [length_groups] at hle
  split
  · next htwo =>
    have hfront : ∀ n ∈ a.groups.take first, n < 0x10000 :=
      fun n hn ↦ hlt n (List.mem_of_mem_take hn)
    have hback : ∀ n ∈ a.groups.drop (first + length), n < 0x10000 :=
      fun n hn ↦ hlt n (List.mem_of_mem_drop hn)
    have hcount : (a.groups.take first).length + (a.groups.drop (first + length)).length =
        8 - length := by
      rw [List.length_take, List.length_drop, length_groups]
      omega
    have hall : a.groups.take first ++ List.replicate (8 - (8 - length)) 0 ++
        a.groups.drop (first + length) = a.groups := by
      have hself : 8 - (8 - length) = length := by omega
      rw [hself, ← hzero, List.append_assoc, ← List.drop_drop, List.take_append_drop,
        List.take_append_drop]
    have hcut : cutGap (groupsText (a.groups.take first) ++ "::" ++
        groupsText (a.groups.drop (first + length))).toList =
          ((groupsText (a.groups.take first)).toList,
            some (groupsText (a.groups.drop (first + length))).toList) := by
      rw [String.toList_append, String.toList_append, List.append_assoc, cutGap_groupsText]
      exact Prod.ext (List.append_nil _) rfl
    rw [parse?, hcut]
    simp only [groups?_groupsText hfront, lastGroups?_groupsText hback, Option.bind_eq_bind,
      Option.bind_some]
    rw [hcount, if_pos (by omega), hall, ofGroups_groups]
    rfl
  · have hcut := cutGap_groupsText a.groups []
    rw [List.append_nil] at hcut
    rw [parse?, hcut]
    simp only [cutGap, lastGroups?_groupsText hlt, Option.bind_eq_bind, Option.bind_some]
    rw [if_pos (length_groups a)]
    exact congrArg some (ofGroups_groups a)

end IPv6

namespace Address

/-! ### Zones -/

/-- A zone, where there is one, is not empty and holds neither a percent sign nor a slash. -/
def HasReadableZone (a : Address) : Prop :=
  ∀ zone, a.zone = some zone → zone ≠ [] ∧ '%' ∉ zone ∧ '/' ∉ zone

private theorem zone_of_parseV6?_ne {s zone : List Char} {a : Address} (h : parseV6? s = some a)
    (hz : a.zone = some zone) : zone ≠ [] ∧ '%' ∉ zone := by
  unfold parseV6? at h
  split at h
  · obtain ⟨a6, -, rfl⟩ := Option.map_eq_some_iff.mp h
    cases hz
  · split at h
    · cases h
    · next hzone =>
      obtain ⟨a6, -, rfl⟩ := Option.map_eq_some_iff.mp h
      cases hz
      simpa using hzone

/-- An address that has been read has a zone that can be read. -/
theorem hasReadableZone_of_parse? {s : List Char} {a : Address} (h : parse? s = some a) :
    a.HasReadableZone := by
  intro zone hz
  have hmem := (zone_of_parse? h hz).2
  unfold parse? at h
  split at h
  · cases h
  · next hslash =>
    split at h
    · cases h
      cases hz
    · obtain ⟨hne, hpercent⟩ := zone_of_parseV6?_ne h hz
      exact ⟨hne, hpercent, fun hm ↦ hslash (List.contains_iff_mem.mpr (hmem '/' hm))⟩

/-- The network of an address has a zone that can be read if the address has. -/
theorem HasReadableZone.network {a : Address} (h : a.HasReadableZone) (length : Nat) :
    (a.network length).HasReadableZone := fun zone hz ↦ h zone (zone_network hz)

/-! ### The two families -/

/-- An IPv6 address has 128 bits. -/
theorem width_of_parseV6? {s : List Char} {a : Address} (h : parseV6? s = some a) :
    a.width = 128 := by
  unfold parseV6? at h
  split at h
  · obtain ⟨a6, -, rfl⟩ := Option.map_eq_some_iff.mp h
    rfl
  · split at h
    · cases h
    · obtain ⟨a6, -, rfl⟩ := Option.map_eq_some_iff.mp h
      rfl

/-- What is read as an IPv4 address is not read as an IPv6 address. -/
theorem parseV6?_of_v4 {s : List Char} {a : IPv4} (h : IPv4.parse? s = some a) :
    parseV6? s = none := by
  have hnot {c : Char} (hd : c.isDigit = false) (hp : c ≠ '.') : c ∉ s := by
    intro hm
    rcases IPv4.isDigit_or_point_of_parse h c hm with hc | hc
    · rw [hd] at hc
      cases hc
    · exact hp hc
  rw [parseV6?, cut_of_not_mem (hnot (by decide) (by decide))]
  dsimp only
  rw [IPv6.parse?_of_not_mem (hnot (by decide) (by decide))]
  rfl

/-- A text without a slash is an address exactly if it is one of either family, and it is not one of
both. -/
theorem parse?_eq_some_iff {s : List Char} {a : Address} :
    parse? s = some a ↔
      '/' ∉ s ∧ ((∃ a4, IPv4.parse? s = some a4 ∧ a = .v4 a4) ∨ parseV6? s = some a) := by
  rw [parse?]
  split
  · next hslash => simp [List.contains_iff_mem.mp hslash]
  · next hslash =>
    have hs : '/' ∉ s := fun hm ↦ hslash (List.contains_iff_mem.mpr hm)
    cases h4 : IPv4.parse? s with
    | none => simp [hs]
    | some a4 => simp [hs, parseV6?_of_v4 h4, eq_comm]

private theorem parseV6?_text {a : IPv6} {zone : Option (List Char)}
    (h : (Address.v6 a zone).HasReadableZone) :
    parseV6? (Address.v6 a zone).text.toList = some (.v6 a zone) := by
  have hpercent : '%' ∉ a.text.toList := fun hm ↦
    absurd (IPv6.isAddressChar_of_mem_text hm) (by decide)
  cases zone with
  | none =>
    rw [text, parseV6?, cut_of_not_mem hpercent]
    dsimp only
    rw [IPv6.parse?_text]
    rfl
  | some zone =>
    obtain ⟨hne, hzone, -⟩ := h zone rfl
    have hcut : cut '%' (a.text ++ "%" ++ String.ofList zone).toList =
        (a.text.toList, some zone) := by
      rw [String.toList_append, String.toList_append, String.toList_ofList, List.append_assoc,
        List.singleton_append, cut_append_cons hpercent, String.toList_ofList]
    have hzone? : (zone.isEmpty || zone.contains '%') = false := by
      simp [hne, hzone]
    have htext : (Address.v6 a (some zone)).text = a.text ++ "%" ++ String.ofList zone := rfl
    rw [htext, parseV6?, hcut]
    dsimp only
    rw [hzone?, if_neg Bool.false_ne_true, IPv6.parse?_text]
    rfl

/-- No slash stands in the text of an address whose zone can be read. -/
theorem slash_not_mem_text {a : Address} (h : a.HasReadableZone) : '/' ∉ a.text.toList := by
  intro hm
  rcases mem_text hm with hc | ⟨zone, hz, hc | hc⟩
  · exact absurd hc (by decide)
  · exact absurd hc (by decide)
  · exact (h zone hz).2.2 hc

/-- An address whose zone can be read is read back from its text. -/
theorem parse?_text {a : Address} (h : a.HasReadableZone) : parse? a.text.toList = some a := by
  refine parse?_eq_some_iff.mpr ⟨slash_not_mem_text h, ?_⟩
  cases a with
  | v4 a4 => exact .inl ⟨a4, IPv4.parse?_text a4, rfl⟩
  | v6 a6 zone => exact .inr (parseV6?_text h)

/-- Addresses whose zones can be read have different texts. -/
theorem text_injective {a b : Address} (ha : a.HasReadableZone) (hb : b.HasReadableZone)
    (h : a.text = b.text) : a = b := by
  have hread := parse?_text ha
  rw [h, parse?_text hb] at hread
  exact (Option.some.inj hread).symm

end Address

end CaptureFilter.Net
