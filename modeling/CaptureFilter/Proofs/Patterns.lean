import CaptureFilter.Net.Link
import CaptureFilter.Proofs.Denotation
import CaptureFilter.Proofs.Numerals

/-!
# The forms of link-layer and transport tokens

A port number is a row of decimal digits, an ethertype is `0x` with hexadecimal digits, and a
hardware address is groups of hexadecimal digits between colons. What is accepted are these forms,
except that one line feed may follow a port number, an ethertype and each group of an address. A
text without line feeds is accepted exactly if it has the form.
Spec guidance: `SPEC_FULL.md` §6 (`is_mac_address`, `is_ethertype`, `is_port`).
-/

namespace CaptureFilter

namespace Text

/-! ### A line feed at the end -/

/-- A text of some form, or one with a line feed after it. -/
def Trailed (P : List Char → Prop) (s : List Char) : Prop := P s ∨ ∃ t, s = t ++ ['\n'] ∧ P t

variable {P : List Char → Prop} {s : List Char}

/-- Where a form holds no line feed, the text without a final line feed has it. -/
theorem trailed_iff (h : ∀ s, P s → '\n' ∉ s) : Trailed P s ↔ P (dropFinalLineFeed s) := by
  constructor
  · rintro (hs | ⟨t, rfl, ht⟩)
    · rwa [dropFinalLineFeed_of_not_mem (h s hs)]
    · rwa [dropFinalLineFeed, if_pos List.getLast?_concat, List.dropLast_concat]
  · intro hs
    rcases dropFinalLineFeed_eq_or s with heq | heq
    · exact .inl (heq ▸ hs)
    · exact .inr ⟨_, heq, hs⟩

/-- A text without line feeds has the form itself. -/
theorem trailed_iff_of_not_mem (h : '\n' ∉ s) : Trailed P s ↔ P s := by
  refine or_iff_left ?_
  rintro ⟨t, rfl, -⟩
  exact h (List.mem_append_right t List.mem_cons_self)

end Text

/-- Hexadecimal digits hold no other character. -/
theorem Fragment.IsHexRow.not_mem {most : Nat} {digits : List Char} (h : IsHexRow most digits)
    {c : Char} (hc : Text.isHexDigit c = false) : c ∉ digits := by
  intro hm
  rw [h.isHexDigit c hm] at hc
  cases hc

namespace Net

open Text Fragment

/-! ### The forms -/

/-- A port number: decimal digits of a value from 1 to 65535. -/
structure IsPortNumber (s : List Char) : Prop where
  /-- It consists of digits. -/
  isNumber : isNumber s = true
  /-- It is not zero. -/
  one_le : 1 ≤ Nat.ofDigitChars 10 s 0
  /-- It is not too great. -/
  le_greatest : Nat.ofDigitChars 10 s 0 ≤ 65535

/-- Port numbers are recognised by their digits. -/
instance (s : List Char) : Decidable (IsPortNumber s) :=
  decidable_of_iff
    (Text.isNumber s = true ∧ 1 ≤ Nat.ofDigitChars 10 s 0 ∧ Nat.ofDigitChars 10 s 0 ≤ 65535)
    ⟨fun ⟨hd, hlo, hhi⟩ ↦ ⟨hd, hlo, hhi⟩, fun ⟨hd, hlo, hhi⟩ ↦ ⟨hd, hlo, hhi⟩⟩

/-- An ethertype: `0x` and one to four hexadecimal digits. -/
def IsEthertypeNumber (s : List Char) : Prop :=
  ∃ digits, s = '0' :: 'x' :: digits ∧ IsHexRow 4 digits

/-- A hardware address with groups of a form: six between colons, or with `leading` one to six. -/
def IsGroups (leading : Bool) (P : List Char → Prop) (s : List Char) : Prop :=
  ∃ groups, s = [':'].intercalate groups ∧ (∀ group ∈ groups, P group) ∧ 1 ≤ groups.length ∧
    groups.length ≤ 6 ∧ (leading = false → groups.length = 6)

variable {P : List Char → Prop} {s : List Char} {leading : Bool}

/-- Where groups hold no colon, they are what stands between the colons. -/
theorem isGroups_iff (h : ∀ group, P group → ':' ∉ group) :
    IsGroups leading P s ↔
      (∀ group ∈ s.splitOn ':', P group) ∧ (s.splitOn ':').length ≤ 6 ∧
        (leading = false → (s.splitOn ':').length = 6) := by
  constructor
  · rintro ⟨groups, rfl, hall, hone, hmost⟩
    have hne : groups ≠ [] := List.length_pos_iff.mp hone
    rw [List.splitOn_intercalate ':' (fun group hg ↦ h group (hall group hg)) hne]
    exact ⟨hall, hmost⟩
  · rintro ⟨hall, hmost⟩
    have hone := List.length_pos_iff.mpr (List.splitOn_ne_nil ':' s)
    exact ⟨_, (List.intercalate_splitOn ':').symm, hall, hone, hmost⟩

/-- In a text without line feeds, none follows a group. -/
theorem isGroups_trailed_iff (h : '\n' ∉ s) :
    IsGroups leading (Trailed P) s ↔ IsGroups leading P s := by
  refine exists_congr fun groups ↦ and_congr_right ?_
  rintro rfl
  refine and_congr_left fun _ ↦ forall₂_congr fun group hg ↦ ?_
  exact trailed_iff_of_not_mem fun hm ↦ h (mem_intercalate_of_mem hg hm)

/-! ### What is accepted -/

private theorem trailed_isHexRow_iff {most : Nat} :
    Trailed (IsHexRow most) s ↔ IsHexRow most (dropFinalLineFeed s) :=
  trailed_iff fun _ h ↦ h.not_mem (by decide)

/-- An octet is one or two hexadecimal digits, and perhaps a line feed. -/
theorem isMacOctet_iff : isMacOctet s = true ↔ Trailed (IsHexRow 2) s := by
  rw [trailed_isHexRow_iff, isMacOctet]
  simp only [Bool.and_eq_true, Bool.or_eq_true, beq_iff_eq, List.all_eq_true]
  constructor
  · rintro ⟨hl, hd⟩
    exact ⟨by omega, by omega, hd⟩
  · rintro ⟨hlo, hhi, hd⟩
    exact ⟨by omega, hd⟩

/-- A hardware address has groups that are octets. -/
theorem isMac_iff {s : String} :
    isMac leading s = true ↔ IsGroups leading (Trailed (IsHexRow 2)) s.toList := by
  have hcolon (group : List Char) (h : Trailed (IsHexRow 2) group) : ':' ∉ group := by
    rcases h with h | ⟨t, rfl, h⟩
    · exact h.not_mem (by decide)
    · rw [List.mem_append, not_or]
      exact ⟨h.not_mem (by decide), by decide⟩
  rw [isGroups_iff hcolon, isMac, Bool.and_eq_true, List.all_eq_true]
  simp only [isMacOctet_iff]
  refine and_congr_right fun _ ↦ ?_
  cases leading with
  | true => simp
  | false => simp; omega

private theorem trailed_isEthertypeNumber_iff :
    Trailed IsEthertypeNumber s ↔ ∃ rest, s = '0' :: 'x' :: rest ∧ Trailed (IsHexRow 4) rest := by
  constructor
  · rintro (⟨digits, rfl, hd⟩ | ⟨_, rfl, digits, rfl, hd⟩)
    · exact ⟨digits, rfl, .inl hd⟩
    · exact ⟨digits ++ ['\n'], rfl, .inr ⟨digits, rfl, hd⟩⟩
  · rintro ⟨rest, rfl, hd | ⟨digits, rfl, hd⟩⟩
    · exact .inl ⟨rest, rfl, hd⟩
    · exact .inr ⟨'0' :: 'x' :: digits, rfl, digits, rfl, hd⟩

/-- An ethertype is a marker with one to four hexadecimal digits, and perhaps a line feed. -/
theorem isEthertype_iff {s : String} :
    isEthertype s = true ↔ Trailed IsEthertypeNumber s.toList := by
  rw [trailed_isEthertypeNumber_iff, isEthertype]
  split
  · next rest hs =>
    simp only [hs, List.cons.injEq, true_and, exists_eq_left', trailed_isHexRow_iff,
      Bool.and_eq_true, decide_eq_true_eq, List.all_eq_true]
    constructor
    · rintro ⟨⟨hlo, hhi⟩, hd⟩
      exact ⟨hlo, hhi, hd⟩
    · rintro ⟨hlo, hhi, hd⟩
      exact ⟨⟨hlo, hhi⟩, hd⟩
  · next hno =>
    refine iff_of_false nofun ?_
    rintro ⟨rest, hs, -⟩
    exact hno rest hs

/-- Digits are judged by their value, unless there are too many of them. -/
theorem isPort_eq (s : String) :
    isPort s =
      if isNumber (dropFinalLineFeed s.toList) then
        if Numeral.maxDigits < (dropFinalLineFeed s.toList).length then
          .error (.tooManyDigits (dropFinalLineFeed s.toList).length)
        else .ok (decide (IsPortNumber (dropFinalLineFeed s.toList)))
      else .ok false := by
  rw [isPort]
  generalize dropFinalLineFeed s.toList = digits
  split
  · next hd =>
    split
    · next hl =>
      rw [(Numeral.read_eq_error_iff hd).mpr ⟨⟨hd, hl⟩, rfl⟩]
      rfl
    · next hl =>
      rw [Numeral.read_of_isNumber hd (Nat.le_of_not_lt hl)]
      refine congrArg Except.ok (Bool.eq_iff_iff.mpr ?_)
      rw [Bool.and_eq_true, decide_eq_true_eq, decide_eq_true_eq, decide_eq_true_eq]
      exact ⟨fun ⟨hlo, hhi⟩ ↦ ⟨hd, hlo, hhi⟩, fun h ↦ ⟨h.one_le, h.le_greatest⟩⟩
  · rfl

/-- A port is judged unless it has too many digits. -/
theorem exists_isPort_iff {s : String} :
    (∃ b, isPort s = .ok b) ↔ ¬ Trailed Numeral.Oversized s.toList := by
  rw [trailed_iff fun _ ho ↦ not_mem_of_isNumber ho.1 (by decide), isPort_eq]
  split
  · next hd =>
    split
    · next hl => exact iff_of_false nofun fun hno ↦ hno ⟨hd, hl⟩
    · next hl => exact iff_of_true ⟨_, rfl⟩ fun ho ↦ hl ho.2
  · next hd => exact iff_of_true ⟨_, rfl⟩ fun ho ↦ hd ho.1

/-- A port that is judged is a number from 1 to 65535, and perhaps a line feed. -/
theorem isPort_iff {s : String} {b : Bool} (h : isPort s = .ok b) :
    b = true ↔ Trailed IsPortNumber s.toList := by
  rw [trailed_iff fun _ hp ↦ not_mem_of_isNumber hp.isNumber (by decide)]
  rw [isPort_eq] at h
  split at h
  · split at h
    · cases h
    · cases h
      exact decide_eq_true_iff
  · next hd =>
    cases h
    exact iff_of_false nofun fun hp ↦ hd hp.isNumber

/-- A port, an ethertype and a hardware address are accepted exactly if they have the form, with a
line feed allowed after a port, an ethertype and each group of an address. Texts without line feeds
are accepted exactly if they have the form itself. -/
theorem tokens_accepted_iff (s : String) (leading : Bool) :
    ((∃ b, isPort s = .ok b) ↔ ¬ Trailed Numeral.Oversized s.toList) ∧
      (∀ b, isPort s = .ok b → (b = true ↔ Trailed IsPortNumber s.toList)) ∧
      (isEthertype s = true ↔ Trailed IsEthertypeNumber s.toList) ∧
      (isMac leading s = true ↔ IsGroups leading (Trailed (IsHexRow 2)) s.toList) ∧
      ('\n' ∉ s.toList →
        (∀ b, isPort s = .ok b → (b = true ↔ IsPortNumber s.toList)) ∧
          (isEthertype s = true ↔ IsEthertypeNumber s.toList) ∧
          (isMac leading s = true ↔ IsGroups leading (IsHexRow 2) s.toList)) := by
  refine ⟨exists_isPort_iff, fun b ↦ isPort_iff, isEthertype_iff, isMac_iff, fun h ↦ ⟨?_, ?_, ?_⟩⟩
  · intro b hb
    rw [isPort_iff hb, trailed_iff_of_not_mem h]
  · rw [isEthertype_iff, trailed_iff_of_not_mem h]
  · rw [isMac_iff, isGroups_trailed_iff h]

/-- A port, an ethertype and the beginning of an address that are accepted and have the forms, and a
port that has a line feed after it. -/
theorem accepted_tokens_have_forms :
    IsPortNumber "0443".toList ∧ IsEthertypeNumber "0x88aB".toList ∧
      IsGroups true (IsHexRow 2) "0:1B:2c".toList ∧ Trailed IsPortNumber "65535\n".toList := by
  obtain ⟨-, -, -, -, hport⟩ := tokens_accepted_iff "0443" true
  obtain ⟨-, -, -, -, hethertype⟩ := tokens_accepted_iff "0x88aB" true
  obtain ⟨-, -, -, -, hmac⟩ := tokens_accepted_iff "0:1B:2c" true
  obtain ⟨-, htrailed, -, -, -⟩ := tokens_accepted_iff "65535\n" true
  refine ⟨?_, ?_, ?_, ?_⟩
  · exact ((hport (by decide)).1 true (by decide +kernel)).mp rfl
  · exact (hethertype (by decide)).2.1.mp (by decide)
  · exact (hmac (by decide)).2.2.mp (by decide)
  · exact (htrailed true (by decide +kernel)).mp rfl

/-- A port, an ethertype and an address with a line feed that are accepted and do not have the
forms. -/
theorem lineFeed_accepted :
    (isPort "80\n" = .ok true ∧ ¬ IsPortNumber "80\n".toList) ∧
      (isEthertype "0x800\n" = true ∧ ¬ IsEthertypeNumber "0x800\n".toList) ∧
      isMac false "0\n:1:2:3:4:5" = true ∧
      ¬ IsGroups false (IsHexRow 2) "0\n:1:2:3:4:5".toList := by
  refine ⟨⟨by decide +kernel, by decide⟩, ⟨by decide, ?_⟩, by decide, ?_⟩
  · rintro ⟨digits, hs, hd⟩
    cases hs
    exact hd.not_mem (by decide) (show '\n' ∈ _ by decide)
  · rw [isGroups_iff fun _ hd ↦ hd.not_mem (by decide)]
    rintro ⟨hrows, -⟩
    exact absurd hrows (by decide)

end Net

end CaptureFilter
