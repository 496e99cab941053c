import CaptureFilter.Proofs.Characters
import CaptureFilter.Proofs.LowerCase
import CaptureFilter.Text.Numeral
import Mathlib.Data.List.DropRight
import Mathlib.Data.List.TakeWhile

/-!
# Rows of digits

A row of ASCII digits is read as a number unless there are too many of them. Lower case, trimming
and splitting into words bring no such row about: it stands in the text itself.
Spec guidance: `SPEC_FULL.md` §4.1 (`_is_number`).
-/

namespace CaptureFilter.Text

/-- A row of digits has a character, and digits only. -/
theorem isNumber_iff {s : List Char} : isNumber s = true ↔ s ≠ [] ∧ ∀ c ∈ s, c.isDigit = true := by
  rw [isNumber, Bool.and_eq_true, Bool.not_eq_true', List.isEmpty_eq_false_iff, List.all_eq_true]

/-- Each character of a row of digits counts as a digit. -/
theorem countP_isDigit_of_isNumber {s : List Char} (h : isNumber s = true) :
    s.countP Char.isDigit = s.length :=
  List.countP_eq_length.mpr (isNumber_iff.mp h).2

/-- Digits hold no other character. -/
theorem not_mem_of_isNumber {s : List Char} (h : isNumber s = true) {c : Char}
    (hc : c.isDigit = false) : c ∉ s := by
  intro hm
  rw [(isNumber_iff.mp h).2 c hm] at hc
  cases hc

/-! ### Reading -/

/-- A row of ASCII digits with more of them than a numeral may have. -/
def Numeral.Oversized (digits : List Char) : Prop :=
  isNumber digits = true ∧ maxDigits < digits.length

namespace Numeral

private theorem takeWhile_of_isNumber {s : List Char} (h : isNumber s = true) :
    s.takeWhile (fun c ↦ (digit? c).isSome) = s := by
  rw [List.takeWhile_eq_self_iff]
  intro c hc
  rw [digit?_of_isDigit ((isNumber_iff.mp h).2 c hc)]
  rfl

/-- A row of ASCII digits is refused exactly if it is oversized, and its length is blamed. -/
theorem read_eq_error_iff {s : List Char} (h : isNumber s = true) {e : Error} :
    read s = .error e ↔ Oversized s ∧ e = .tooManyDigits s.length := by
  rw [read, takeWhile_of_isNumber h, Oversized, h]
  by_cases hl : maxDigits < s.length
  · simp [hl, eq_comm]
  · simp [hl]

private theorem foldl_eq_ofDigitChars {s : List Char} (h : ∀ c ∈ s, c.isDigit = true) (n : Nat) :
    s.foldl (fun n c ↦ 10 * n + (digit? c).getD 0) n = Nat.ofDigitChars 10 s n := by
  induction s generalizing n with
  | nil => rfl
  | cons c rest ih =>
    rw [List.foldl_cons, digit?_of_isDigit (h c List.mem_cons_self),
      ih (fun d hd ↦ h d (List.mem_cons_of_mem c hd)), Nat.ofDigitChars_cons]
    rfl

/-- A row of ASCII digits that is not oversized denotes its decimal number. -/
theorem read_of_isNumber {s : List Char} (h : isNumber s = true) (hl : s.length ≤ maxDigits) :
    read s = .ok (Nat.ofDigitChars 10 s 0) := by
  rw [read, takeWhile_of_isNumber h, if_neg (by omega), if_neg (by omega),
    foldl_eq_ofDigitChars (isNumber_iff.mp h).2]

private theorem digit?_lt {c : Char} {d : Nat} (h : digit? c = some d) : d < 10 := by
  unfold digit? at h
  split at h
  · next hc =>
    have hle : c.toNat ≤ 57 := (Char.isDigit_iff_toNat.mp hc).2
    cases h
    omega
  · obtain ⟨first, hfirst, rfl⟩ := Option.map_eq_some_iff.mp h
    have hrange := List.find?_some hfirst
    rw [Bool.and_eq_true, decide_eq_true_eq, decide_eq_true_eq] at hrange
    omega

private theorem foldl_lt (s : List Char) (n : Nat) :
    s.foldl (fun n c ↦ 10 * n + (digit? c).getD 0) n < (n + 1) * Nat.pow 10 s.length := by
  induction s generalizing n with
  | nil => simp
  | cons c rest ih =>
    have hdigit : (digit? c).getD 0 < 10 := by
      cases hd : digit? c with
      | none => decide
      | some d => exact digit?_lt hd
    calc
      _ < (10 * n + (digit? c).getD 0 + 1) * Nat.pow 10 rest.length := ih _
      _ ≤ (10 * (n + 1)) * Nat.pow 10 rest.length := Nat.mul_le_mul_right _ (by omega)
      _ = (n + 1) * (Nat.pow 10 rest.length * 10) := by ac_rfl

/-- A number of one digit can be written. -/
theorem not_unwritable_of_lt_ten {n : Nat} (h : n < 10) : ¬ Unwritable n := by
  have hle : 10 ≤ leastUnwritable := Nat.le_self_pow (by decide) 10
  rw [Unwritable, Int.natAbs_natCast]
  omega

/-- What has been read from digits can be written in as many. -/
theorem not_unwritable_of_read {s : List Char} {n : Nat} (h : read s = .ok n) :
    ¬ Unwritable n := by
  unfold read at h
  dsimp only at h
  split at h
  · cases h
  · next hfew =>
    split at h
    · cases h
    · next hall =>
      rw [Except.ok.injEq] at h
      subst h
      have hlt := foldl_lt s 0
      have hle : Nat.pow 10 s.length ≤ leastUnwritable :=
        Nat.pow_le_pow_right (by decide) (by omega)
      rw [Unwritable, Int.natAbs_natCast]
      omega

end Numeral

/-- A text that does not end in a line feed stays as it is. -/
theorem dropFinalLineFeed_of_not_mem {s : List Char} (h : '\n' ∉ s) : dropFinalLineFeed s = s :=
  if_neg fun hl ↦ h (List.mem_of_getLast? hl)

/-- A text lacks nothing or a final line feed when that is dropped. -/
theorem dropFinalLineFeed_eq_or (s : List Char) :
    dropFinalLineFeed s = s ∨ s = dropFinalLineFeed s ++ ['\n'] := by
  rw [dropFinalLineFeed]
  split
  · next hl => exact .inr (List.dropLast_append_getLast? '\n' hl).symm
  · exact .inl rfl

/-! ### Lower case -/

/-- A text whose lower-case form is a row of digits is that row. -/
theorem lower_eq_self {s : String} (h : isNumber (lower s).toList = true) : lower s = s := by
  rw [isNumber_iff] at h
  have hascii : ∀ c ∈ s.toList, c.toNat < 0x80 := by
    refine @ascii_of_lowerAfter [] s.toList ?_
    intro c hc
    have hd : c.isDigit = true := h.2 c (by rw [lower, String.toList_ofList]; exact hc)
    have hlt := toNat_lt_of_isDigit hd
    refine ⟨by omega, ?_, ?_⟩ <;> rintro rfl <;> exact absurd hd (by decide)
  have hlow := toList_lower_of_ascii hascii
  have hself : s.toList.map lowerChar = s.toList := by
    rw [hlow] at h
    refine (List.map_congr_left fun c hc ↦ ?_).trans (List.map_id _)
    exact lowerChar_eq_self (h.2 _ (List.mem_map_of_mem hc))
  rw [← String.toList_inj, hlow, hself]

/-- A row of digits is its own lower-case form. -/
theorem lower_of_isNumber {s : String} (h : isNumber s.toList = true) : lower s = s := by
  rw [isNumber_iff] at h
  have hlow := toList_lower_of_ascii fun c hc ↦
    Nat.lt_trans (toNat_lt_of_isDigit (h.2 c hc)) (by decide)
  rw [← String.toList_inj, hlow]
  exact (List.map_congr_left fun c hc ↦ lowerChar_of_isDigit (h.2 c hc)).trans (List.map_id _)

/-! ### Parts of a text -/

/-- Characters are dropped at the end of a text as Mathlib drops them. -/
theorem dropEndWhile_eq_rdropWhile (p : Char → Bool) (s : List Char) :
    dropEndWhile p s = s.rdropWhile p := rfl

/-- A text without the blanks at its ends is a part of the text. -/
theorem trim_infix (s : String) : (trim s).toList <:+: s.toList := by
  rw [trim, String.toList_ofList, dropEndWhile_eq_rdropWhile]
  have hend := (List.rdropWhile_prefix isBlank (s.toList.dropWhile isBlank)).isInfix
  exact hend.trans (List.dropWhile_suffix isBlank).isInfix

private theorem infix_of_mem_splitOnP {p : Char → Bool} {s first : List Char}
    {others : List (List Char)} (h : s.splitOnP p = first :: others) :
    first <+: s ∧ ∀ part ∈ others, part <:+: s := by
  induction s generalizing first others with
  | nil =>
    rw [List.splitOnP_nil] at h
    cases h
    exact ⟨List.prefix_refl [], by simp⟩
  | cons c rest ih =>
    obtain ⟨next, more, hs⟩ := List.exists_cons_of_ne_nil (List.splitOnP_ne_nil p rest)
    obtain ⟨hnext, hmore⟩ := ih hs
    have hrest (part : List Char) (hp : part <:+: rest) : part <:+: c :: rest :=
      List.infix_cons hp
    rw [List.splitOnP_cons_eq_if_modifyHead, hs, List.modifyHead_cons] at h
    split at h
    · cases h
      refine ⟨List.nil_prefix, List.forall_mem_cons.mpr ⟨hrest _ hnext.isInfix, ?_⟩⟩
      exact fun part hp ↦ hrest part (hmore part hp)
    · cases h
      exact ⟨(List.cons_prefix_cons).mpr ⟨rfl, hnext⟩, fun part hp ↦ hrest part (hmore part hp)⟩

/-- A text without blanks is a word. -/
theorem words_of_forall {s : List Char} (hn : s ≠ []) (h : ∀ c ∈ s, isBlank c = false) :
    words (String.ofList s) = [String.ofList s] := by
  have hs : s.isEmpty = false := List.isEmpty_eq_false_iff.mpr hn
  rw [words, wordsOf, String.toList_ofList, List.splitOnP_eq_singleton h]
  simp [hs]

/-- A word is a part of the text. -/
theorem infix_of_mem_words {s word : String} (h : word ∈ words s) :
    word.toList <:+: s.toList := by
  obtain ⟨part, hp, rfl⟩ := List.mem_map.mp h
  rw [wordsOf, List.mem_filter] at hp
  rw [String.toList_ofList]
  obtain ⟨first, others, hs⟩ := List.exists_cons_of_ne_nil (List.splitOnP_ne_nil isBlank s.toList)
  obtain ⟨hfirst, hothers⟩ := infix_of_mem_splitOnP hs
  rw [hs] at hp
  rcases List.mem_cons.mp hp.1 with rfl | hm
  · exact hfirst.isInfix
  · exact hothers part hm

end CaptureFilter.Text
