import CaptureFilter.Proofs.AddressText

/-!
# Networks of addresses

The network of an address has the address's bits within the prefix and no others. Its zone is the
address's, unless the address has a bit beyond the prefix. So two addresses of one family that agree
within the prefix and in the zone have the same network, unless there is a zone and only one of them
has a bit beyond the prefix.
Spec guidance: `SPEC_FULL.md` §6 (`subnet_network`).
-/

namespace CaptureFilter.Net

/-! ### Bits -/

/-- The bits of a word, the greatest first. -/
def bitsOf {w : Nat} (a : BitVec w) : List Bool := (List.range w).map a.getMsbD

section Bits

variable {w length : Nat}

private theorem length_bitsOf (a : BitVec w) : (bitsOf a).length = w := by
  rw [bitsOf, List.length_map, List.length_range]

private theorem bitsOf_injective {a b : BitVec w} (h : bitsOf a = bitsOf b) : a = b := by
  apply BitVec.eq_of_getMsbD_eq
  intro i hi
  exact List.map_inj_left.mp h i (List.mem_range.mpr hi)

/-- Clearing keeps the bits within the prefix. -/
theorem bitsOf_clearHost (h : length ≤ w) (a : BitVec w) :
    bitsOf (clearHost length a) =
      (bitsOf a).take length ++ List.replicate (w - length) false := by
  have hlength : (bitsOf (clearHost length a)).length =
      ((bitsOf a).take length ++ List.replicate (w - length) false).length := by
    rw [List.length_append, List.length_take, List.length_replicate, length_bitsOf, length_bitsOf]
    omega
  apply List.ext_getElem hlength
  intro i hi _
  rw [length_bitsOf] at hi
  by_cases hin : i < length
  · rw [List.getElem_append_left (by rw [List.length_take, length_bitsOf]; omega)]
    simp [bitsOf, getMsbD_clearHost, hin]
  · rw [List.getElem_append_right (by rw [List.length_take, length_bitsOf]; omega)]
    simp [bitsOf, getMsbD_clearHost, hin]

/-- Clearing leaves a word as it is exactly if it has no bit beyond the prefix. -/
theorem clearHost_eq_self_iff (h : length ≤ w) (a : BitVec w) :
    clearHost length a = a ↔ true ∉ (bitsOf a).drop length := by
  have hsplit : bitsOf a = (bitsOf a).take length ++ (bitsOf a).drop length :=
    (List.take_append_drop length _).symm
  have hcleared := bitsOf_clearHost h a
  constructor
  · intro ha
    rw [ha] at hcleared
    have hdrop := List.append_cancel_left (hsplit.symm.trans hcleared)
    rw [hdrop]
    exact fun hm ↦ absurd (List.eq_of_mem_replicate hm) (by decide)
  · intro hno
    apply bitsOf_injective
    rw [hcleared]
    conv => rhs; rw [hsplit]
    congr 1
    refine (List.eq_replicate_iff.mpr ⟨?_, fun bit hm ↦ ?_⟩).symm
    · rw [List.length_drop, length_bitsOf]
    · cases bit with
      | false => rfl
      | true => exact absurd hm hno

end Bits

/-! ### Addresses -/

namespace Address

variable {a b : Address} {length : Nat}

/-- The bits of an address, the greatest first. -/
def bits : Address → List Bool
  | .v4 a => bitsOf a
  | .v6 a _ => bitsOf a

/-- The bits of a family are at most 128. -/
theorem width_le (a : Address) : a.width ≤ 128 := by
  cases a <;> simp [width]

/-- An address is what its family, its bits and its zone say. -/
theorem eq_iff : a = b ↔ a.width = b.width ∧ a.bits = b.bits ∧ a.zone = b.zone := by
  constructor
  · rintro rfl
    exact ⟨rfl, rfl, rfl⟩
  · rintro ⟨hw, hb, hz⟩
    cases a with
    | v4 a =>
      cases b with
      | v4 b => rw [bitsOf_injective hb]
      | v6 b zone => exact absurd (show 32 = 128 from hw) (by decide)
    | v6 a zone =>
      cases b with
      | v4 b => exact absurd (show 128 = 32 from hw) (by decide)
      | v6 b other =>
        cases hz
        rw [bitsOf_injective hb]

/-- The network of an address is of the address's family. -/
theorem width_network (length : Nat) (a : Address) : (a.network length).width = a.width := by
  cases a with
  | v4 a => rfl
  | v6 a zone =>
    rw [network]
    split <;> rfl

/-- The network of an address has the address's bits within the prefix and no others. -/
theorem bits_network (h : length ≤ a.width) :
    (a.network length).bits =
      a.bits.take length ++ List.replicate (a.width - length) false := by
  cases a with
  | v4 a => exact bitsOf_clearHost h a
  | v6 a zone =>
    rw [network]
    split
    · next ha => exact (congrArg bitsOf ha).symm.trans (bitsOf_clearHost h a)
    · exact bitsOf_clearHost h a

/-- The network of an address has the address's zone, unless the address has a bit beyond the
prefix. -/
theorem zone_network_eq (h : length ≤ a.width) :
    (a.network length).zone = if true ∈ a.bits.drop length then none else a.zone := by
  cases a with
  | v4 a => exact (ite_self _).symm
  | v6 a zone =>
    have hself := clearHost_eq_self_iff h a
    rw [network]
    split
    · next ha => exact (if_neg (hself.mp ha)).symm
    · next ha => exact (if_pos (Decidable.not_not.mp fun hno ↦ ha (hself.mpr hno))).symm

/-- Addresses of one family that agree within the prefix and in the zone have the same network
exactly if there is no zone, or both have a bit beyond the prefix, or neither has one. -/
theorem network_eq_iff (h : length ≤ a.width) (hw : a.width = b.width)
    (hb : a.bits.take length = b.bits.take length) (hz : a.zone = b.zone) :
    a.network length = b.network length ↔
      a.zone = none ∨ (true ∈ a.bits.drop length ↔ true ∈ b.bits.drop length) := by
  rw [eq_iff, width_network, width_network, bits_network h, bits_network (hw ▸ h), hb, ← hw,
    zone_network_eq h, zone_network_eq (hw ▸ h), ← hz]
  simp only [true_and]
  by_cases hA : true ∈ a.bits.drop length
  · by_cases hB : true ∈ b.bits.drop length <;> simp [hA, hB, eq_comm]
  · by_cases hB : true ∈ b.bits.drop length <;> simp [hA, hB]

end Address

end CaptureFilter.Net
