import CaptureFilter.Criterion.Fragment
import CaptureFilter.Proofs.Success

/-!
# The fragments of tokens

What an accepted token of each field is turned into, with the bounds that the token has passed, and
what a token may be refused for.
Spec guidance: `SPEC_FULL.md` §4.1 (`_compile_tokens`).
-/

namespace CaptureFilter.Fragment

open Text Net

variable {token : String} {fragment : Fragment}

private theorem refuse_ne_ok {α : Type} {fault : TokenFault} {a : α} :
    (refuse fault token : Except Failure α) ≠ .ok a := by
  intro h
  cases h

/-- An accepted tag number stands in a tagged section and fits a tag. -/
theorem ofTag_eq_ok {depth : Fin 10} (h : ofTag depth token = .ok fragment) :
    ∃ n, fragment = .tag depth n ∧ n ≤ maxTag ∧ depth.val ≠ 0 := by
  unfold ofTag at h
  split at h
  · obtain ⟨n, -, h⟩ := bind_eq_ok_iff.mp h
    split at h
    · exact absurd h refuse_ne_ok
    · next hn =>
      split at h
      · exact absurd h refuse_ne_ok
      · next hd =>
        cases h
        exact ⟨n, rfl, Nat.le_of_not_lt hn, hd⟩
  · exact absurd h refuse_ne_ok

/-- An accepted ethertype has a name or a number that is not a tag's. -/
theorem ofEthertype_eq_ok (h : ofEthertype token = .ok fragment) :
    (∃ known, fragment = .named known) ∨
      ∃ n, fragment = .ethertype n ∧ tagEthertypes.contains n = false := by
  unfold ofEthertype at h
  split at h
  · next known _ =>
    cases h
    exact .inl ⟨known, rfl⟩
  · dsimp only at h
    split at h
    · split at h
      · exact absurd h refuse_ne_ok
      · next hn =>
        cases h
        exact .inr ⟨_, rfl, Bool.eq_false_iff.mpr hn⟩
    · exact absurd h refuse_ne_ok

/-- The protocols that no number describes are pings and encrypted packets. -/
theorem namedProtocol?_eq_some {name : String} (h : namedProtocol? name = some fragment) :
    fragment = .ping ∨ fragment = .ipsec := by
  unfold namedProtocol? at h
  split at h
  · exact .inl (Option.some.inj h).symm
  · exact .inr (Option.some.inj h).symm
  · cases h

/-- An accepted protocol has a fragment of its own or a number. -/
theorem ofProtocol_eq_ok {table : Protocol.Table} (h : ofProtocol table token = .ok fragment) :
    fragment = .ping ∨ fragment = .ipsec ∨ ∃ n, fragment = .protocol n := by
  unfold ofProtocol ProtocolToken.of at h
  split at h
  · next special hs =>
    cases h
    split at hs
    · next hn =>
      cases hs
      rcases namedProtocol?_eq_some hn with rfl | rfl
      · exact .inl rfl
      · exact .inr (.inl rfl)
    · split at hs <;> cases hs
  · obtain ⟨n, -, h⟩ := bind_eq_ok_iff.mp h
    split at h
    · exact absurd h refuse_ne_ok
    · cases h
      exact .inr (.inr ⟨n, rfl⟩)
  · split at h
    · next n _ =>
      by_cases hn : Numeral.Unwritable n
      · rw [ofListed_of_unwritable hn] at h
        cases h
      · rw [ofListed_of_not_unwritable hn] at h
        cases h
        exact .inr (.inr ⟨n, rfl⟩)
    · exact absurd h refuse_ne_ok

/-- An accepted address is one, or the text of a subnet in its network form. -/
theorem ofAddress_eq_ok (h : ofAddress token = .ok fragment) :
    (fragment = .host token ∧ isAddress token = true) ∨
      ∃ subnet, Subnet.parse? token.toList = some subnet ∧ fragment = .network subnet.text := by
  unfold ofAddress at h
  split at h
  · next ha =>
    cases h
    exact .inl ⟨rfl, ha⟩
  · obtain ⟨b, -, h⟩ := bind_eq_ok_iff.mp h
    split at h
    · split at h
      · next text ht =>
        cases h
        obtain ⟨subnet, hs, rfl⟩ := Option.map_eq_some_iff.mp ht
        exact .inr ⟨subnet, hs, rfl⟩
      · exact absurd h refuse_ne_ok
    · exact absurd h refuse_ne_ok

/-- An accepted hardware address has six octets, its beginning one, two or four. -/
theorem ofHardware_eq_ok (h : ofHardware token = .ok fragment) :
    (∃ octets, fragment = .hardware octets ∧ octets.length = 6) ∨
      ∃ octets, fragment = .hardwareStart octets ∧ octets.length ∈ [1, 2, 4] := by
  unfold ofHardware at h
  split at h
  · dsimp only at h
    split at h
    · next hl =>
      cases h
      exact .inl ⟨_, rfl, hl⟩
    · split at h
      · next hl =>
        cases h
        exact .inr ⟨_, rfl, List.contains_iff_mem.mp hl⟩
      · exact absurd h refuse_ne_ok
  · exact absurd h refuse_ne_ok

/-- An accepted port is a number. -/
theorem ofPort_eq_ok (h : ofPort token = .ok fragment) : ∃ n, fragment = .port n := by
  unfold ofPort at h
  obtain ⟨b, -, h⟩ := bind_eq_ok_iff.mp h
  split at h
  · obtain ⟨n, -, h⟩ := bind_eq_ok_iff.mp h
    cases h
    exact ⟨n, rfl⟩
  · exact absurd h refuse_ne_ok

/-- An accepted number of a tag is one of the section's own tag, and an accepted ethertype is not a
tag's, whatever the field. -/
theorem numbers_of_ofToken {table : Protocol.Table} {depth : Fin 10} {field : PacketField}
    (h : ofToken table depth field token = .ok fragment) :
    (∀ d n, fragment = .tag d n → d = depth ∧ n ≤ maxTag ∧ depth.val ≠ 0) ∧
      ∀ n, fragment = .ethertype n → tagEthertypes.contains n = false := by
  cases field with
  | vlan =>
    obtain ⟨m, rfl, hmax, hpos⟩ := ofTag_eq_ok h
    constructor
    · rintro d n he
      cases he
      exact ⟨rfl, hmax, hpos⟩
    · simp
  | ethertype =>
    rcases ofEthertype_eq_ok h with ⟨known, rfl⟩ | ⟨m, rfl, hm⟩
    · simp
    · constructor
      · simp
      · rintro n he
        cases he
        exact hm
  | protocol => rcases ofProtocol_eq_ok h with rfl | rfl | ⟨_, rfl⟩ <;> simp
  | address => rcases ofAddress_eq_ok h with ⟨rfl, -⟩ | ⟨_, -, rfl⟩ <;> simp
  | mac => rcases ofHardware_eq_ok h with ⟨_, rfl, -⟩ | ⟨_, rfl, -⟩ <;> simp
  | port =>
    obtain ⟨_, rfl⟩ := ofPort_eq_ok h
    simp

/-! ### Tokens that are refused -/

/-- What a token of a field may be refused for: a fault of the field, or digits that cannot be
read. -/
def RefusedFor (field : PacketField) (token : String) (e : Failure) : Prop :=
  (∃ fault : TokenFault, fault.field = field ∧ e = .filter (.token fault token)) ∨
    ∃ unread, e = .numeral unread

/-- A result that is a fragment, or refuses the token of a field for what it may be refused for. -/
def Answers (field : PacketField) (token : String) (result : Except Failure Fragment) : Prop :=
  ∀ e, result = .error e → RefusedFor field token e

section Refused

variable {field : PacketField}

private theorem answers_ok : Answers field token (.ok fragment) := by
  intro e h
  cases h

private theorem answers_refuse {fault : TokenFault} (hf : fault.field = field) :
    Answers field token (refuse fault token) := by
  intro e h
  cases h
  exact .inl ⟨fault, hf, rfl⟩

private theorem answers_numeral {unread : Numeral.Error} :
    Answers field token (.error (.numeral unread)) := by
  intro e h
  cases h
  exact .inr ⟨unread, rfl⟩

private theorem answers_bind {α : Type} {x : Except Numeral.Error α}
    {f : α → Except Failure Fragment} (hf : ∀ a, Answers field token (f a)) :
    Answers field token (x.mapError .numeral >>= f) := by
  intro e h
  cases x with
  | error unread => exact answers_numeral e h
  | ok a => exact hf a e h

private theorem answers_ofTag (depth : Fin 10) : Answers .vlan token (ofTag depth token) := by
  unfold ofTag
  split
  · apply answers_bind
    intro n
    split
    · exact answers_refuse rfl
    · split
      · exact answers_refuse rfl
      · exact answers_ok
  · exact answers_refuse rfl

private theorem answers_ofEthertype : Answers .ethertype token (ofEthertype token) := by
  unfold ofEthertype
  split
  · exact answers_ok
  · dsimp only
    split
    · split
      · exact answers_refuse rfl
      · exact answers_ok
    · exact answers_refuse rfl

private theorem answers_ofProtocol (table : Protocol.Table) :
    Answers .protocol token (ofProtocol table token) := by
  unfold ofProtocol ProtocolToken.of
  split
  · exact answers_ok
  · next n hn =>
    split at hn
    · cases hn
    · split at hn
      · cases hn
        apply answers_bind
        intro n
        split
        · exact answers_refuse rfl
        · exact answers_ok
      · cases hn
  · split
    · next n _ =>
      by_cases hn : Numeral.Unwritable n
      · rw [ofListed_of_unwritable hn]
        exact answers_numeral
      · rw [ofListed_of_not_unwritable hn]
        exact answers_ok
    · exact answers_refuse rfl

private theorem answers_ofAddress : Answers .address token (ofAddress token) := by
  unfold ofAddress
  split
  · exact answers_ok
  · apply answers_bind
    intro b
    split
    · split
      · exact answers_ok
      · exact answers_refuse rfl
    · exact answers_refuse rfl

private theorem answers_ofHardware : Answers .mac token (ofHardware token) := by
  unfold ofHardware
  split
  · dsimp only
    split
    · exact answers_ok
    · split
      · exact answers_ok
      · exact answers_refuse rfl
  · exact answers_refuse rfl

private theorem answers_ofPort : Answers .port token (ofPort token) := by
  unfold ofPort
  apply answers_bind
  intro b
  split
  · apply answers_bind
    intro n
    exact answers_ok
  · exact answers_refuse rfl

/-- A token is refused for a fault of its field, or because its digits cannot be read. -/
theorem refusedFor_of_ofToken {table : Protocol.Table} {depth : Fin 10} {e : Failure}
    (h : ofToken table depth field token = .error e) : RefusedFor field token e := by
  have hanswers : Answers field token (ofToken table depth field token) := by
    cases field with
    | vlan => exact answers_ofTag depth
    | ethertype => exact answers_ofEthertype
    | protocol => exact answers_ofProtocol table
    | address => exact answers_ofAddress
    | mac => exact answers_ofHardware
    | port => exact answers_ofPort
  exact hanswers e h

end Refused

end CaptureFilter.Fragment
