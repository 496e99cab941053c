import CaptureFilter.Net.Subnet
import CaptureFilter.Proofs.Characters

/-!
# The characters of addresses

An address that is accepted without a percent sign, and every address that is printed without a
zone, consists of hexadecimal digits, colons and points. A zone is printed as it was given.
Spec guidance: `SPEC_FULL.md` §6 (`is_ip_address`, `subnet_network`).
-/

namespace CaptureFilter.Net

open Text

/-- Whether a character may stand in an address outside a zone. -/
def isAddressChar (c : Char) : Bool := isHexDigit c || c == ':' || c == '.'

private theorem isAddressChar_of_isHexDigit {c : Char} (h : isHexDigit c = true) :
    isAddressChar c = true := by
  rw [isAddressChar, h]
  rfl

private theorem isAddressChar_of_isDigit {c : Char} (h : c.isDigit = true) :
    isAddressChar c = true := by
  apply isAddressChar_of_isHexDigit
  rw [isHexDigit, h]
  rfl

private theorem isAddressChar_colon : isAddressChar ':' = true := by decide

private theorem isAddressChar_point : isAddressChar '.' = true := by decide

private theorem forall_of_mapM {α β : Type} {f : α → Option β} {xs : List α} {ys : List β}
    (h : xs.mapM f = some ys) : ∀ x ∈ xs, ∃ y, f x = some y := by
  induction xs generalizing ys with
  | nil => exact fun x hx ↦ absurd hx List.not_mem_nil
  | cons first rest ih =>
    rw [List.mapM_cons] at h
    obtain ⟨y, hy, h⟩ := Option.bind_eq_some_iff.mp h
    obtain ⟨others, ho, -⟩ := Option.bind_eq_some_iff.mp h
    intro x hx
    rcases List.mem_cons.mp hx with rfl | hm
    · exact ⟨y, hy⟩
    · exact ih ho x hm

/-! ### Addresses as they are read -/

namespace IPv4

private theorem isDigit_of_octet {s : List Char} {n : Nat} (h : octet? s = some n) :
    ∀ c ∈ s, c.isDigit = true := by
  unfold octet? at h
  dsimp only at h
  split at h
  · next hs =>
    rw [isNumber, Bool.and_eq_true] at hs
    exact List.all_eq_true.mp hs.1.2
  · cases h

/-- An IPv4 address is read from decimal digits and points. -/
theorem isDigit_or_point_of_parse {s : List Char} {a : IPv4} (h : parse? s = some a) :
    ∀ c ∈ s, c.isDigit = true ∨ c = '.' := by
  unfold parse? at h
  split at h
  · next a b c d hs =>
    obtain ⟨na, ha, h⟩ := Option.bind_eq_some_iff.mp h
    obtain ⟨nb, hb, h⟩ := Option.bind_eq_some_iff.mp h
    obtain ⟨nc, hc, h⟩ := Option.bind_eq_some_iff.mp h
    obtain ⟨nd, hd, -⟩ := Option.bind_eq_some_iff.mp h
    intro x hx
    rcases mem_or_mem_of_splitOn '.' hx with rfl | ⟨part, hp, hm⟩
    · exact .inr rfl
    · left
      rw [hs] at hp
      simp only [List.mem_cons, List.not_mem_nil, or_false] at hp
      rcases hp with rfl | rfl | rfl | rfl
      · exact isDigit_of_octet ha x hm
      · exact isDigit_of_octet hb x hm
      · exact isDigit_of_octet hc x hm
      · exact isDigit_of_octet hd x hm
  · cases h

/-- An IPv4 address is read from characters of addresses. -/
theorem isAddressChar_of_parse {s : List Char} {a : IPv4} (h : parse? s = some a) :
    ∀ c ∈ s, isAddressChar c = true := by
  intro c hc
  rcases isDigit_or_point_of_parse h c hc with hd | rfl
  · exact isAddressChar_of_isDigit hd
  · exact isAddressChar_point

/-- An IPv4 address is printed in decimal digits and points. -/
theorem isAddressChar_of_mem_text {a : IPv4} {c : Char} (h : c ∈ a.text.toList) :
    isAddressChar c = true := by
  rw [text] at h
  rcases mem_toList_intercalate h with h | ⟨t, ht, hc⟩
  · rw [List.mem_singleton.mp h]
    exact isAddressChar_point
  · obtain ⟨n, -, rfl⟩ := List.mem_map.mp ht
    exact isAddressChar_of_isDigit (isDigit_of_mem_decimal hc)

end IPv4

namespace IPv6

private theorem isAddressChar_of_group {s : List Char} {n : Nat} (h : group? s = some n) :
    ∀ c ∈ s, isAddressChar c = true := by
  unfold group? at h
  split at h
  · next hs => exact fun c hc ↦ isAddressChar_of_isHexDigit (List.all_eq_true.mp hs.2.2 c hc)
  · cases h

private theorem isAddressChar_of_groups {s : List Char} {groups : List Nat}
    (h : (s.splitOn ':').mapM group? = some groups) : ∀ c ∈ s, isAddressChar c = true := by
  intro c hc
  rcases mem_or_mem_of_splitOn ':' hc with rfl | ⟨part, hp, hm⟩
  · exact isAddressChar_colon
  · obtain ⟨n, hn⟩ := forall_of_mapM h part hp
    exact isAddressChar_of_group hn c hm

private theorem isAddressChar_of_front {s : List Char} {groups : List Nat}
    (h : groups? s = some groups) : ∀ c ∈ s, isAddressChar c = true := by
  unfold groups? at h
  split at h
  · next hs =>
    rw [List.isEmpty_iff.mp hs]
    exact fun c hc ↦ absurd hc List.not_mem_nil
  · exact isAddressChar_of_groups h

private theorem isAddressChar_of_last {s : List Char} {groups : List Nat}
    (h : lastGroups? s = some groups) : ∀ c ∈ s, isAddressChar c = true := by
  unfold lastGroups? at h
  split at h
  · next hs =>
    rw [List.isEmpty_iff.mp hs]
    exact fun c hc ↦ absurd hc List.not_mem_nil
  · dsimp only at h
    split at h
    · obtain ⟨tail, ht, h⟩ := Option.bind_eq_some_iff.mp h
      obtain ⟨front, hf, -⟩ := Option.bind_eq_some_iff.mp h
      intro c hc
      rcases mem_or_mem_of_splitOn ':' hc with rfl | ⟨part, hp, hm⟩
      · exact isAddressChar_colon
      · -- the part is the last one, an IPv4 address, or one of the groups before it
        have hl := List.dropLast_concat_getLast (List.splitOn_ne_nil ':' s)
        rw [← hl, List.mem_append, List.mem_singleton] at hp
        rcases hp with hp | hp
        · obtain ⟨n, hn⟩ := forall_of_mapM hf part hp
          exact isAddressChar_of_group hn c hm
        · rw [List.getLast?_eq_some_getLast (List.splitOn_ne_nil ':' s), Option.getD_some,
            ← hp] at ht
          exact IPv4.isAddressChar_of_parse ht c hm
    · exact isAddressChar_of_groups h

private theorem cutGap_restore {s front back : List Char} (h : cutGap s = (front, some back)) :
    s = front ++ ':' :: ':' :: back := by
  fun_induction cutGap s generalizing front with
  | case1 rest =>
    obtain ⟨rfl, hb⟩ := Prod.mk.inj h
    rw [← Option.some.inj hb]
    rfl
  | case2 => cases (Prod.mk.inj h).2
  | case3 c rest _ ih =>
    obtain ⟨rfl, hb⟩ := Prod.mk.inj h
    rw [List.cons_append, ← ih (Prod.ext rfl hb)]

/-- An IPv6 address is read from hexadecimal digits, colons and points. -/
theorem isAddressChar_of_parse {s : List Char} {a : IPv6} (h : parse? s = some a) :
    ∀ c ∈ s, isAddressChar c = true := by
  unfold parse? at h
  split at h
  · next front back hs =>
    obtain ⟨high, hh, h⟩ := Option.bind_eq_some_iff.mp h
    obtain ⟨low, hl, -⟩ := Option.bind_eq_some_iff.mp h
    intro c hc
    rw [cutGap_restore hs] at hc
    simp only [List.mem_append, List.mem_cons] at hc
    rcases hc with hc | rfl | rfl | hc
    · exact isAddressChar_of_front hh c hc
    · exact isAddressChar_colon
    · exact isAddressChar_colon
    · exact isAddressChar_of_last hl c hc
  · obtain ⟨groups, hg, -⟩ := Option.bind_eq_some_iff.mp h
    exact isAddressChar_of_last hg

private theorem isAddressChar_of_mem_groupsText {groups : List Nat} {c : Char}
    (h : c ∈ (groupsText groups).toList) : isAddressChar c = true := by
  rw [groupsText] at h
  rcases mem_toList_intercalate h with h | ⟨t, ht, hc⟩
  · rw [List.mem_singleton.mp h]
    exact isAddressChar_colon
  · obtain ⟨n, -, rfl⟩ := List.mem_map.mp ht
    rw [String.toList_ofList] at hc
    exact isAddressChar_of_isHexDigit (isHexDigit_of_mem_hexDigits hc)

/-- An IPv6 address is printed in hexadecimal digits and colons. -/
theorem isAddressChar_of_mem_text {a : IPv6} {c : Char} (h : c ∈ a.text.toList) :
    isAddressChar c = true := by
  unfold text at h
  dsimp only at h
  split at h
  · rw [String.toList_append, String.toList_append, List.mem_append, List.mem_append] at h
    rcases h with (h | h) | h
    · exact isAddressChar_of_mem_groupsText h
    · have hc : c = ':' := by simpa using h
      rw [hc]
      exact isAddressChar_colon
    · exact isAddressChar_of_mem_groupsText h
  · exact isAddressChar_of_mem_groupsText h

end IPv6

namespace Address

/-- The zone of an address. -/
def zone : Address → Option (List Char)
  | .v4 _ => none
  | .v6 _ zone => zone

/-- A zone is what stands behind a percent sign. -/
theorem zone_of_parseV6? {s zone : List Char} {a : Address} (h : parseV6? s = some a)
    (hz : a.zone = some zone) : '%' ∈ s ∧ ∀ c ∈ zone, c ∈ s := by
  unfold parseV6? at h
  split at h
  · obtain ⟨a6, -, rfl⟩ := Option.map_eq_some_iff.mp h
    cases hz
  · next front back hs =>
    split at h
    · cases h
    · obtain ⟨a6, -, rfl⟩ := Option.map_eq_some_iff.mp h
      cases hz
      exact ⟨mark_mem_of_cut hs, (mem_of_cut hs).2⟩

/-- A zone is part of the text that the address was read from. -/
theorem zone_of_parse? {s zone : List Char} {a : Address} (h : parse? s = some a)
    (hz : a.zone = some zone) : '%' ∈ s ∧ ∀ c ∈ zone, c ∈ s := by
  unfold parse? at h
  split at h
  · cases h
  · split at h
    · cases h
      cases hz
    · exact zone_of_parseV6? h hz

/-- An address without a percent sign is read from hexadecimal digits, colons and points. -/
theorem isAddressChar_of_parse? {s : List Char} {a : Address} (h : parse? s = some a)
    (hs : '%' ∉ s) : ∀ c ∈ s, isAddressChar c = true := by
  unfold parse? at h
  split at h
  · cases h
  · split at h
    · next a4 ha => exact IPv4.isAddressChar_of_parse ha
    · unfold parseV6? at h
      rw [cut_of_not_mem hs] at h
      obtain ⟨a6, ha, -⟩ := Option.map_eq_some_iff.mp h
      exact IPv6.isAddressChar_of_parse ha

/-- The network of an address has no other zone than the address. -/
theorem zone_network {length : Nat} {a : Address} {zone : List Char}
    (h : (a.network length).zone = some zone) : a.zone = some zone := by
  cases a with
  | v4 a4 => cases h
  | v6 a6 zone6 =>
    rw [network] at h
    split at h
    · exact h
    · cases h

/-- A printed address holds digits, colons and points, and its zone behind a percent sign. -/
theorem mem_text {a : Address} {c : Char} (h : c ∈ a.text.toList) :
    isAddressChar c = true ∨ ∃ zone, a.zone = some zone ∧ (c = '%' ∨ c ∈ zone) := by
  cases a with
  | v4 a4 => exact .inl (IPv4.isAddressChar_of_mem_text h)
  | v6 a6 zone =>
    cases zone with
    | none => exact .inl (IPv6.isAddressChar_of_mem_text h)
    | some zone =>
      rw [text, String.toList_append, String.toList_append, List.mem_append, List.mem_append] at h
      rcases h with (h | h) | h
      · exact .inl (IPv6.isAddressChar_of_mem_text h)
      · exact .inr ⟨zone, rfl, .inl (List.mem_singleton.mp h)⟩
      · rw [String.toList_ofList] at h
        exact .inr ⟨zone, rfl, .inr h⟩

end Address

/-- An accepted address without a percent sign has digits, colons and points. -/
theorem isAddressChar_of_isAddress {s : String} (h : isAddress s = true) (hs : '%' ∉ s.toList) :
    ∀ c ∈ s.toList, isAddressChar c = true := by
  obtain ⟨a, ha⟩ := Option.isSome_iff_exists.mp h
  exact Address.isAddressChar_of_parse? ha hs

/-- A text with a slash is no address. -/
theorem isAddress_eq_false {s : String} (h : '/' ∈ s.toList) : isAddress s = false := by
  rw [isAddress, Address.parse?, if_pos (List.contains_iff_mem.mpr h)]
  rfl

namespace Subnet

private theorem zone_of_v4? {address length : List Char} {n : Subnet}
    (h : v4? address length = some n) : n.address.zone = none := by
  unfold v4? at h
  obtain ⟨a, -, h⟩ := Option.bind_eq_some_iff.mp h
  obtain ⟨l, -, h⟩ := Option.bind_eq_some_iff.mp h
  cases h
  rfl

private theorem zone_of_v6? {address length zone : List Char} {n : Subnet}
    (h : v6? address length = some n) (hz : n.address.zone = some zone) :
    '%' ∈ address ∧ ∀ c ∈ zone, c ∈ address := by
  unfold v6? at h
  obtain ⟨a, ha, h⟩ := Option.bind_eq_some_iff.mp h
  obtain ⟨l, -, h⟩ := Option.bind_eq_some_iff.mp h
  cases h
  exact Address.zone_of_parseV6? ha (Address.zone_network hz)

/-- The zone of a subnet is part of the text that it was read from. -/
theorem zone_of_parse? {s zone : List Char} {n : Subnet} (h : parse? s = some n)
    (hz : n.address.zone = some zone) : '%' ∈ s ∧ ∀ c ∈ zone, c ∈ s := by
  unfold parse? at h
  split at h
  · next address hs =>
    have hsub (c : Char) (hc : c ∈ address) : c ∈ s :=
      mem_of_mem_splitOn (by rw [hs]; exact List.mem_cons_self) hc
    obtain ⟨a, ha, rfl⟩ := Option.map_eq_some_iff.mp h
    have hzone := Address.zone_of_parse? ha (Address.zone_network hz)
    exact ⟨hsub _ hzone.1, fun c hc ↦ hsub c (hzone.2 c hc)⟩
  · next address length hs =>
    have hsub (c : Char) (hc : c ∈ address) : c ∈ s :=
      mem_of_mem_splitOn (by rw [hs]; exact List.mem_cons_self) hc
    rw [Option.orElse_eq_orElse, Option.orElse_eq_or, Option.or_eq_some_iff] at h
    rcases h with h | ⟨-, h⟩
    · rw [zone_of_v4? h] at hz
      cases hz
    · have hzone := zone_of_v6? h hz
      exact ⟨hsub _ hzone.1, fun c hc ↦ hsub c (hzone.2 c hc)⟩
  · cases h

/-- A printed subnet holds digits, colons, points and a slash, and its zone behind a percent
sign. -/
theorem mem_text {n : Subnet} {c : Char} (h : c ∈ n.text.toList) :
    isAddressChar c = true ∨ c = '/' ∨
      ∃ zone, n.address.zone = some zone ∧ (c = '%' ∨ c ∈ zone) := by
  rw [text, String.toList_append, String.toList_append, List.mem_append, List.mem_append] at h
  rcases h with (h | h) | h
  · rcases Address.mem_text h with h | h
    · exact .inl h
    · exact .inr (.inr h)
  · exact .inr (.inl (List.mem_singleton.mp h))
  · exact .inl (isAddressChar_of_isDigit (isDigit_of_mem_decimal h))

/-- A printed subnet has a slash. -/
theorem slash_mem_text (n : Subnet) : '/' ∈ n.text.toList := by
  rw [text, String.toList_append, String.toList_append]
  exact List.mem_append_left _ (List.mem_append_right _ List.mem_cons_self)

end Subnet

end CaptureFilter.Net
