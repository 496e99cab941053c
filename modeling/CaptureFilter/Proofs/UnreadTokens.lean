import CaptureFilter.Proofs.AddressText
import CaptureFilter.Proofs.Attempts
import CaptureFilter.Proofs.Numerals

/-!
# Tokens that leave no answer

A token has a fragment or is refused unless its field reads digits in it that are too many, or it is
the name of a protocol and there is no table to look it up in, or the number found there has too
many digits to be written.
Spec guidance: `SPEC_FULL.md` §4.1 (`Attribute.set_input`) and §6.
-/

namespace CaptureFilter

open Text Net

@[simp] private theorem pure_ne_numeral {α : Type} {a : α} {e : Numeral.Error} :
    (pure a : Except Failure α) ≠ .error (.numeral e) := by
  simp [pure, Except.pure]

@[simp] private theorem mapError_eq_numeral_iff {α : Type} {x : Except Numeral.Error α}
    {e : Numeral.Error} : x.mapError Failure.numeral = .error (.numeral e) ↔ x = .error e := by
  cases x <;> simp [Except.mapError]

private theorem bind_eq_numeral_iff {α β : Type} {x : Except Numeral.Error α}
    {e : Numeral.Error}
    {f : α → Except Failure β} (hf : ∀ a, f a ≠ .error (.numeral e)) :
    (x.mapError .numeral >>= f) = .error (.numeral e) ↔ x = .error e := by
  rw [bind_eq_error_iff, mapError_eq_numeral_iff]
  refine or_iff_left ?_
  rintro ⟨a, ha, hfa⟩
  exact hf a hfa

/-! ### Tokens -/

namespace Fragment

variable {token : String} {field : PacketField} {e : Numeral.Error}

/-- The digits of a token that its field reads as a number: all of it, or what stands behind the
slash. -/
def NumeralIn (field : PacketField) (token digits : List Char) : Prop :=
  match field with
  | .vlan | .protocol | .port => token = digits
  | .address => ∃ address, '/' ∉ address ∧ token = address ++ '/' :: digits
  | .ethertype | .mac => False

/-- The digits that a field reads end the token. -/
theorem suffix_of_numeralIn {token digits : List Char} (h : NumeralIn field token digits) :
    digits <:+ token := by
  cases field with
  | vlan | protocol | port =>
    obtain rfl : token = digits := h
    exact List.suffix_refl token
  | address =>
    obtain ⟨address, -, rfl⟩ := h
    exact ⟨address ++ ['/'], by simp⟩
  | ethertype | mac => cases h

@[simp] private theorem refuse_ne_numeral {fault : TokenFault} :
    (refuse fault token : Except Failure Fragment) ≠ .error (.numeral e) := by
  simp [refuse]

private theorem number_bind_eq_numeral_iff (h : isNumber token.toList = true)
    {f : Nat → Except Failure Fragment} (hf : ∀ n, f n ≠ .error (.numeral e)) :
    (number token >>= f) = .error (.numeral e) ↔
      Numeral.Oversized token.toList ∧ e = .tooManyDigits token.toList.length := by
  rw [number, bind_eq_numeral_iff hf]
  exact Numeral.read_eq_error_iff h

private theorem ofTag_eq_numeral_iff {depth : Fin 10} :
    ofTag depth token = .error (.numeral e) ↔
      Numeral.Oversized token.toList ∧ e = .tooManyDigits token.toList.length := by
  unfold ofTag
  split
  · next h =>
    apply number_bind_eq_numeral_iff h
    intro n
    split
    · simp
    · split <;> simp
  · next h => exact iff_of_false (by simp) fun ho ↦ h ho.1.1

private theorem ofEthertype_ne_numeral : ofEthertype token ≠ .error (.numeral e) := by
  unfold ofEthertype
  split
  · simp
  · dsimp only
    split
    · split <;> simp
    · simp

private theorem ofListed_eq_numeral_iff {n : Int} :
    ofListed n = .error (.numeral e) ↔ Numeral.Unwritable n ∧ e = .unwritable := by
  by_cases h : Numeral.Unwritable n
  · rw [ofListed_of_unwritable h]
    simp [h, eq_comm]
  · rw [ofListed_of_not_unwritable h]
    simp [h]

/-- A number is no protocol with a fragment of its own. -/
theorem namedProtocol?_of_isNumber (h : isNumber token.toList = true) :
    namedProtocol? (lower token) = none := by
  rw [lower_of_isNumber h]
  unfold namedProtocol?
  split
  · exact absurd h (by decide)
  · exact absurd h (by decide)
  · rfl

/-- A protocol leaves no answer exactly if its digits, which are the whole token, are oversized, or
if it is a name that the table lists with a number that cannot be written. -/
theorem ofProtocol_eq_numeral_iff {table : Protocol.Table} :
    ofProtocol table token = .error (.numeral e) ↔
      (Numeral.Oversized token.toList ∧ e = .tooManyDigits token.toList.length) ∨
        (ProtocolToken.of token = .name ∧
          ∃ n, table.lookup token = some n ∧ Numeral.Unwritable n ∧ e = .unwritable) := by
  by_cases h : isNumber token.toList = true
  · have hof : ProtocolToken.of token = .numeral (number token) := by
      rw [ProtocolToken.of, namedProtocol?_of_isNumber h, if_pos h]
    have hno : ProtocolToken.of token ≠ .name := by rw [hof]; nofun
    rw [or_iff_left fun hn ↦ hno hn.1, ofProtocol, hof]
    apply number_bind_eq_numeral_iff h
    intro n
    split <;> simp
  · rw [or_iff_right fun ho ↦ h ho.1.1]
    cases hof : ProtocolToken.of token with
    | special fragment =>
      simp [ofProtocol, hof]
    | numeral n =>
      unfold ProtocolToken.of at hof
      rw [if_neg h] at hof
      split at hof <;> cases hof
    | name =>
      rw [ofProtocol, hof, and_iff_right rfl]
      cases hl : table.lookup token with
      | none => simp
      | some n =>
        rw [ofListed_eq_numeral_iff]
        simp

private theorem ofPort_eq_numeral_iff (hb : ∀ c ∈ token.toList, isBlank c = false) :
    ofPort token = .error (.numeral e) ↔
      Numeral.Oversized token.toList ∧ e = .tooManyDigits token.toList.length := by
  have hline : dropFinalLineFeed token.toList = token.toList :=
    dropFinalLineFeed_of_not_mem fun hm ↦ absurd (hb _ hm) (by decide)
  by_cases h : isNumber token.toList = true
  · rw [← Numeral.read_eq_error_iff h, ofPort, isPort, hline, if_pos h]
    cases hr : Numeral.read token.toList with
    | error unread =>
      change Except.error (Failure.numeral unread) = .error (.numeral e) ↔ _
      simp
    | ok n =>
      have hn : number token = .ok n := by rw [number, hr]; rfl
      refine iff_of_false ?_ (by simp)
      change (if (1 ≤ n && n ≤ 65535) = true then number token >>= fun n ↦ .ok (Fragment.port n)
        else refuse .port token) ≠ .error (.numeral e)
      rw [hn]
      split
      · intro h
        cases h
      · simp
  · refine iff_of_false ?_ fun ho ↦ h ho.1.1
    rw [ofPort, isPort, hline, if_neg h]
    exact refuse_ne_numeral

private theorem isSubnet_eq_error_iff (hb : ∀ c ∈ token.toList, isBlank c = false) :
    isSubnet token = .error e ↔
      ∃ digits, NumeralIn .address token.toList digits ∧ Numeral.Oversized digits ∧
        e = .tooManyDigits digits.length := by
  constructor
  · intro h
    unfold isSubnet at h
    split at h
    · next address digits hs =>
      obtain ⟨haddress, -, htoken⟩ := splitOn_eq_pair_iff.mp hs
      have hline : dropFinalLineFeed digits = digits :=
        dropFinalLineFeed_of_not_mem fun hm ↦ absurd (hb '\n' (by simp [htoken, hm])) (by decide)
      dsimp only at h
      rw [hline] at h
      split at h
      · next hn =>
        refine ⟨digits, ⟨address, haddress, htoken⟩, (Numeral.read_eq_error_iff hn).mp ?_⟩
        cases hr : Numeral.read digits with
        | error unread =>
          rw [hr] at h
          cases h
          rfl
        | ok n =>
          rw [hr] at h
          change (if 128 < n then _ else _) = _ at h
          split at h <;> cases h
      · cases h
    · cases h
  · rintro ⟨digits, ⟨address, haddress, htoken⟩, ho, he⟩
    have hslash : '/' ∉ digits := not_mem_of_isNumber ho.1 (by decide)
    have hline : dropFinalLineFeed digits = digits :=
      dropFinalLineFeed_of_not_mem (not_mem_of_isNumber ho.1 (by decide))
    have hr : Numeral.read digits = .error e := (Numeral.read_eq_error_iff ho.1).mpr ⟨ho, he⟩
    rw [isSubnet, splitOn_eq_pair_iff.mpr ⟨haddress, hslash, htoken⟩]
    dsimp only
    rw [hline, if_pos ho.1, hr]
    rfl

private theorem ofAddress_eq_numeral_iff (hb : ∀ c ∈ token.toList, isBlank c = false) :
    ofAddress token = .error (.numeral e) ↔
      ∃ digits, NumeralIn .address token.toList digits ∧ Numeral.Oversized digits ∧
        e = .tooManyDigits digits.length := by
  rw [← isSubnet_eq_error_iff hb]
  by_cases ha : isAddress token = true
  · refine iff_of_false ?_ ?_
    · rw [ofAddress, if_pos ha]
      simp
    · intro h
      obtain ⟨digits, ⟨address, -, htoken⟩, -⟩ := (isSubnet_eq_error_iff hb).mp h
      rw [isAddress_eq_false (by simp [htoken])] at ha
      cases ha
  · rw [ofAddress, if_neg ha]
    apply bind_eq_numeral_iff
    intro b
    split
    · split <;> simp
    · simp

private theorem ofHardware_ne_numeral : ofHardware token ≠ .error (.numeral e) := by
  unfold ofHardware
  split
  · dsimp only
    split
    · simp
    · split <;> simp
  · simp

/-! ### Tables that are asked for -/

/-- The fragment of a token, with a table that is asked for at the name of a protocol only. -/
def ofTokenFrom (source : Protocol.Source) (depth : Fin 10) (field : PacketField) (token : String) :
    Except Failure Fragment :=
  match field, ProtocolToken.of token with
  | .protocol, .name => do ofProtocol (← source.mapError .numeral) token
  | _, _ => ofToken .empty depth field token

variable {source : Protocol.Source} {depth : Fin 10}

/-- The table is asked for at a name. -/
theorem ofTokenFrom_of_name (h : ProtocolToken.of token = .name) :
    ofTokenFrom source depth .protocol token =
      (do ofProtocol (← source.mapError .numeral) token) := by
  simp only [ofTokenFrom, h]

/-- No table is asked for elsewhere, so that any will do. -/
theorem ofTokenFrom_of_ne (h : field = .protocol → ProtocolToken.of token ≠ .name)
    (table : Protocol.Table) :
    ofTokenFrom source depth field token = ofToken table depth field token := by
  cases field with
  | protocol =>
    have hne := h rfl
    unfold ofTokenFrom
    split
    · next hn => exact absurd hn hne
    · exact ofProtocol_congr hne .empty table
  | _ => rfl

/-- With a table to hand a token has the fragment that the table gives it. -/
theorem ofTokenFrom_ok (table : Protocol.Table) :
    ofTokenFrom (.ok table) depth field token = ofToken table depth field token := by
  by_cases h : field = .protocol ∧ ProtocolToken.of token = .name
  · obtain ⟨rfl, hn⟩ := h
    rw [ofTokenFrom_of_name hn]
    rfl
  · exact ofTokenFrom_of_ne (fun hf hn ↦ h ⟨hf, hn⟩) table

/-- Why a token of a field leaves no answer. -/
inductive Unread (source : Protocol.Source) :
    PacketField → String → Numeral.Error → Prop where
  /-- The digits that its field reads are oversized. -/
  | digits {field : PacketField} {token : String} {digits : List Char}
    (hn : NumeralIn field token.toList digits) (ho : Numeral.Oversized digits) :
    Unread source field token (.tooManyDigits digits.length)
  /-- It is a name, and there is no table. -/
  | noTable {token : String} {e : Numeral.Error} (h : ProtocolToken.of token = .name)
    (hs : source = .error e) : Unread source .protocol token e
  /-- It is a name, and the number that the table lists for it cannot be written. -/
  | listed {token : String} {table : Protocol.Table} {n : Int} (h : ProtocolToken.of token = .name)
    (hs : source = .ok table) (hn : table.lookup token = some n) (hw : Numeral.Unwritable n) :
    Unread source .protocol token .unwritable

private theorem unread_iff_digits (h : field = .protocol → ProtocolToken.of token ≠ .name) :
    Unread source field token e ↔
      ∃ digits, NumeralIn field token.toList digits ∧ Numeral.Oversized digits ∧
        e = .tooManyDigits digits.length := by
  constructor
  · rintro (⟨hn, ho⟩ | ⟨hname, -⟩ | ⟨hname, -⟩)
    · exact ⟨_, hn, ho, rfl⟩
    · exact absurd hname (h rfl)
    · exact absurd hname (h rfl)
  · rintro ⟨digits, hn, ho, rfl⟩
    exact .digits hn ho

private theorem not_oversized_of_name (h : ProtocolToken.of token = .name) :
    ¬ Numeral.Oversized token.toList := by
  intro ho
  rw [ProtocolToken.of, namedProtocol?_of_isNumber ho.1, if_pos ho.1] at h
  cases h

private theorem ofTokenFrom_of_name_eq_numeral_iff (h : ProtocolToken.of token = .name) :
    ofTokenFrom source depth .protocol token = .error (.numeral e) ↔
      Unread source .protocol token e := by
  rw [ofTokenFrom_of_name h]
  cases source with
  | error e' =>
    constructor
    · rintro ⟨⟩
      exact .noTable h rfl
    · rintro (⟨hn, ho⟩ | ⟨-, hs⟩ | ⟨-, hs, -⟩)
      · cases hn
        exact absurd ho (not_oversized_of_name h)
      · cases hs
        rfl
      · cases hs
  | ok table =>
    change ofProtocol table token = _ ↔ _
    rw [ofProtocol_eq_numeral_iff]
    constructor
    · rintro (⟨ho, rfl⟩ | ⟨-, n, hn, hw, rfl⟩)
      · exact .digits rfl ho
      · exact .listed h rfl hn hw
    · rintro (⟨hn, ho⟩ | ⟨-, hs⟩ | ⟨-, hs, hn, hw⟩)
      · cases hn
        exact .inl ⟨ho, rfl⟩
      · cases hs
      · cases hs
        exact .inr ⟨h, _, hn, hw, rfl⟩

/-- A word leaves no answer exactly for one of these reasons. -/
theorem ofTokenFrom_eq_numeral_iff (hb : ∀ c ∈ token.toList, isBlank c = false) :
    ofTokenFrom source depth field token = .error (.numeral e) ↔ Unread source field token e := by
  by_cases h : field = .protocol ∧ ProtocolToken.of token = .name
  · obtain ⟨rfl, hname⟩ := h
    exact ofTokenFrom_of_name_eq_numeral_iff hname
  · have hne : field = .protocol → ProtocolToken.of token ≠ .name := fun hf hn ↦ h ⟨hf, hn⟩
    rw [unread_iff_digits hne, ofTokenFrom_of_ne hne .empty]
    cases field with
    | vlan => simpa [ofToken, NumeralIn] using ofTag_eq_numeral_iff
    | ethertype => simpa [ofToken, NumeralIn] using ofEthertype_ne_numeral
    | protocol =>
      have hempty : ofProtocol .empty token = .error (.numeral e) ↔ _ := ofProtocol_eq_numeral_iff
      rw [or_iff_left fun hn ↦ hne rfl hn.1] at hempty
      simpa [ofToken, NumeralIn] using hempty
    | address => exact ofAddress_eq_numeral_iff hb
    | mac => simpa [ofToken, NumeralIn] using ofHardware_ne_numeral
    | port => simpa [ofToken, NumeralIn] using ofPort_eq_numeral_iff hb

/-- Without a table, tokens have no fragments if a name is looked up, and else those of any
table. -/
theorem mapM_ofTokenFrom_error {e : Numeral.Error} (tokens : List String) :
    tokens.mapM (ofTokenFrom (.error e) depth .protocol) =
      if consults tokens then .error (.numeral e) else tokens.mapM (ofProtocol .empty) := by
  induction tokens with
  | nil => rfl
  | cons token rest ih =>
    rw [List.mapM_cons, List.mapM_cons]
    by_cases h : ProtocolToken.of token = .name
    · rw [ofTokenFrom_of_name h, consults_cons_of_name h, if_pos rfl]
      rfl
    · rw [ofTokenFrom_of_ne (fun _ ↦ h) .empty, consults_cons_of_ne h .empty, ih]
      change ofProtocol .empty token >>= _ = _
      cases ofProtocol .empty token with
      | error failure => rfl
      | ok fragment =>
        change _ = if consults rest = true then _ else _
        split <;> rfl

end Fragment

end CaptureFilter
