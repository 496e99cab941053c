import CaptureFilter.Text.Case
import CaptureFilter.Text.Digit
import Mathlib.Data.List.Basic

/-!
# Lower case and ASCII

Lower case leads nothing into ASCII from beyond it but to the letters i and k. Within ASCII it goes
character by character, and digits stay what they are and denote what they did.
Spec guidance: `SPEC_FULL.md` §3 (`_parse_type`, `_parse_match`) and §6 (`lookup`).
-/

namespace CaptureFilter.Text

/-! ### Beyond ASCII -/

/-- A run of lower-case forms that leads nothing into ASCII from beyond it but to the letter k. -/
def RunBeyond (first last target : Nat) : Prop :=
  last < 0x80 ∨ (first = last ∧ target = 0x6B) ∨
    (0x80 ≤ target ∧ target + (last - first) < 0xD800) ∨
    (0xE000 ≤ target ∧ target + (last - first) < 0x110000)

private theorem lowerRuns_beyond : ∀ run ∈ lowerRuns, RunBeyond run.1 run.2.1 run.2.2.2 := by
  unfold RunBeyond
  decide +kernel

private theorem mapRuns_beyond {runs : List (Nat × Nat × Nat × Nat)}
    (h : ∀ run ∈ runs, RunBeyond run.1 run.2.1 run.2.2.2) {n : Nat} (hn : 0x80 ≤ n)
    (hv : n.isValidChar) :
    mapRuns runs n = 0x6B ∨ (0x80 ≤ mapRuns runs n ∧ (mapRuns runs n).isValidChar) := by
  induction runs with
  | nil => exact .inr ⟨hn, hv⟩
  | cons run rest ih =>
    obtain ⟨first, last, step, target⟩ := run
    rw [mapRuns]
    split
    · have hrun : RunBeyond first last target := h _ List.mem_cons_self
      unfold RunBeyond at hrun
      unfold Nat.isValidChar
      omega
    · exact ih fun run hr ↦ h run (List.mem_cons_of_mem _ hr)

/-- A character beyond ASCII has a lower-case form beyond it, or the letter k. -/
theorem lowerChar_beyond {c : Char} (h : 0x80 ≤ c.toNat) :
    lowerChar c = 'k' ∨ 0x80 ≤ (lowerChar c).toNat := by
  have hl : lowerChar c = Char.ofNat (mapRuns lowerRuns c.toNat) := by
    rw [lowerChar, if_neg (by omega)]
  rw [hl]
  rcases mapRuns_beyond lowerRuns_beyond h c.valid with hk | ⟨hle, hv⟩
  · left
    rw [hk]
  · right
    rw [Char.ofNat, dif_pos hv]
    exact hle

/-- A text whose lower-case form is in ASCII without the letters i and k is in ASCII itself. -/
theorem ascii_of_lowerAfter {before s : List Char}
    (h : ∀ c ∈ lowerAfter before s, c.toNat < 0x80 ∧ c ≠ 'i' ∧ c ≠ 'k') :
    ∀ c ∈ s, c.toNat < 0x80 := by
  induction s generalizing before with
  | nil => exact fun c hc ↦ absurd hc List.not_mem_nil
  | cons c rest ih =>
    rw [lowerAfter] at h
    have hrest := ih fun d hd ↦ h d (List.mem_append_right _ hd)
    refine List.forall_mem_cons.mpr ⟨?_, hrest⟩
    split at h
    · split at h
      · exact absurd (h _ List.mem_cons_self).1 (by decide)
      · exact absurd (h _ List.mem_cons_self).1 (by decide)
    · split at h
      · exact absurd rfl (h _ List.mem_cons_self).2.1
      · obtain ⟨hlt, -, hk⟩ := h _ List.mem_cons_self
        refine Nat.lt_of_not_le fun hle ↦ ?_
        rcases lowerChar_beyond hle with he | hge
        · exact hk he
        · omega

/-! ### Within ASCII -/

/-- A text in ASCII is lowered character by character, wherever it stands. -/
theorem lowerAfter_of_ascii (before : List Char) {s : List Char} (h : ∀ c ∈ s, c.toNat < 0x80) :
    lowerAfter before s = s.map lowerChar := by
  induction s generalizing before with
  | nil => rfl
  | cons c rest ih =>
    rw [lowerAfter_cons_of_lt before c rest (h c List.mem_cons_self),
      ih (c :: before) fun d hd ↦ h d (List.mem_cons_of_mem c hd)]
    rfl

/-- A text in ASCII is lowered character by character. -/
theorem toList_lower_of_ascii {s : String} (h : ∀ c ∈ s.toList, c.toNat < 0x80) :
    (lower s).toList = s.toList.map lowerChar := by
  rw [lower, String.toList_ofList, lowerAfter_of_ascii [] h]

/-- What holds of the characters of all numbers below 0x80 holds of each character in ASCII. -/
theorem forall_ascii {P : Char → Prop} (h : ∀ n < 0x80, P (Char.ofNat n)) {c : Char}
    (hc : c.toNat < 0x80) : P c := by
  have hp := h c.toNat hc
  rw [Char.ofNat_toNat] at hp
  exact hp

/-- A digit is in ASCII and comes before the letters. -/
theorem toNat_lt_of_isDigit {c : Char} (h : c.isDigit = true) : c.toNat < 0x41 := by
  have hle : c.toNat ≤ 0x39 := (Char.isDigit_iff_toNat.mp h).2
  omega

/-- A hexadecimal digit is in ASCII and comes before the letter g. -/
theorem toNat_lt_of_isHexDigit {c : Char} (h : isHexDigit c = true) : c.toNat < 0x67 := by
  simp only [isHexDigit, Bool.or_eq_true, Bool.and_eq_true, decide_eq_true_eq] at h
  rcases h with (h | ⟨-, h⟩) | ⟨-, h⟩
  · have hlt := toNat_lt_of_isDigit h
    omega
  · have hle : c.toNat ≤ 0x66 := h
    omega
  · have hle : c.toNat ≤ 0x46 := h
    omega

/-- A digit is its own lower-case form. -/
theorem lowerChar_of_isDigit {c : Char} (h : c.isDigit = true) : lowerChar c = c := by
  have hlt := toNat_lt_of_isDigit h
  exact forall_ascii (P := fun c ↦ c.isDigit = true → lowerChar c = c) (by decide +kernel)
    (by omega) h

/-- A character whose lower-case form is a digit is that digit. -/
theorem lowerChar_eq_self {c : Char} (h : (lowerChar c).isDigit = true) : lowerChar c = c := by
  by_cases hascii : c.toNat < 0x80
  · exact forall_ascii (P := fun c ↦ (lowerChar c).isDigit = true → lowerChar c = c)
      (by decide +kernel) hascii h
  · rcases lowerChar_beyond (Nat.le_of_not_lt hascii) with hk | hge
    · rw [hk] at h
      exact absurd h (by decide)
    · have hlt := toNat_lt_of_isDigit h
      omega

section Ascii

variable {c : Char} (h : c.toNat < 0x80)

include h

/-- A character in ASCII and its lower-case form are hexadecimal digits alike. -/
theorem isHexDigit_lowerChar : isHexDigit (lowerChar c) = isHexDigit c :=
  forall_ascii (P := fun c ↦ isHexDigit (lowerChar c) = isHexDigit c) (by decide +kernel) h

/-- A digit and its lower-case form have the same value. -/
theorem hexValue_lowerChar : hexValue (lowerChar c) = hexValue c :=
  forall_ascii (P := fun c ↦ hexValue (lowerChar c) = hexValue c) (by decide +kernel) h

/-- The letter x is the lower-case form of itself and of the capital. -/
theorem lowerChar_eq_x_iff : lowerChar c = 'x' ↔ c = 'x' ∨ c = 'X' :=
  forall_ascii (P := fun c ↦ lowerChar c = 'x' ↔ c = 'x' ∨ c = 'X') (by decide +kernel) h

/-- A line feed is the lower-case form of nothing else. -/
theorem eq_lineFeed_of_lowerChar (hl : lowerChar c = '\n') : c = '\n' :=
  forall_ascii (P := fun c ↦ lowerChar c = '\n' → c = '\n') (by decide +kernel) h hl

end Ascii

/-- A row of digits in ASCII denotes the same number in lower case. -/
theorem ofHexDigits_map_lowerChar {digits : List Char} (h : ∀ c ∈ digits, c.toNat < 0x80) :
    ofHexDigits (digits.map lowerChar) = ofHexDigits digits := by
  rw [ofHexDigits, ofHexDigits, List.foldl_map]
  exact List.foldl_ext _ _ 0 fun n c hc ↦ by rw [hexValue_lowerChar (h c hc)]

/-! ### Lower case of lower case -/

/-- Whether no lower-case form of a run lies in another run, which has steps of one or two. -/
def runMisses (run other : Nat × Nat × Nat × Nat) : Bool :=
  Nat.blt (run.2.2.2 + (run.2.1 - run.1)) other.1 || Nat.blt other.2.1 run.2.2.2 ||
    (Nat.beq other.2.2.1 2 && (Nat.beq run.2.2.1 2 || Nat.beq run.1 run.2.1) &&
      Nat.beq ((run.2.2.2 + other.1) % 2) 1)

/-- The two letters that are lowered otherwise than by the table, as runs. -/
def specialRuns : List (Nat × Nat × Nat × Nat) := [(0x3A3, 0x3A3, 1, 0), (0x130, 0x130, 1, 0)]

private theorem lowerRuns_miss :
    (lowerRuns.all fun run ↦ (specialRuns ++ lowerRuns).all (runMisses run)) = true := by
  decide +kernel

private theorem not_mem_of_runMisses {first last step target first' last' step' target' n : Nat}
    (h : runMisses (first, last, step, target) (first', last', step', target') = true)
    (hn : first ≤ n ∧ n ≤ last ∧ (n - first) % step = 0) :
    ¬ (first' ≤ target + (n - first) ∧ target + (n - first) ≤ last' ∧
      (target + (n - first) - first') % step' = 0) := by
  simp only [runMisses, Bool.or_eq_true, Bool.and_eq_true, Nat.blt_eq, Nat.beq_eq] at h
  rcases h with (h | h) | ⟨⟨rfl, rfl | rfl⟩, h⟩ <;> omega

private theorem mapRuns_of_missed {runs : List (Nat × Nat × Nat × Nat)} {n : Nat}
    (h : ∀ run ∈ runs, ¬ (run.1 ≤ n ∧ n ≤ run.2.1 ∧ (n - run.1) % run.2.2.1 = 0)) :
    mapRuns runs n = n := by
  induction runs with
  | nil => rfl
  | cons run rest ih =>
    obtain ⟨first, last, step, target⟩ := run
    rw [mapRuns, if_neg (h _ List.mem_cons_self),
      ih fun run hr ↦ h run (List.mem_cons_of_mem _ hr)]

private theorem mapRuns_eq_or (runs : List (Nat × Nat × Nat × Nat)) (n : Nat) :
    mapRuns runs n = n ∨ ∃ run ∈ runs,
      (run.1 ≤ n ∧ n ≤ run.2.1 ∧ (n - run.1) % run.2.2.1 = 0) ∧
        mapRuns runs n = run.2.2.2 + (n - run.1) := by
  induction runs with
  | nil => exact .inl rfl
  | cons run rest ih =>
    obtain ⟨first, last, step, target⟩ := run
    rw [mapRuns]
    split
    · next hn => exact .inr ⟨_, List.mem_cons_self, hn, rfl⟩
    · rcases ih with he | ⟨run, hr, hn, he⟩
      · exact .inl he
      · exact .inr ⟨run, List.mem_cons_of_mem _ hr, hn, he⟩

/-- A character that lower case leaves as it is, wherever it stands. -/
structure Settled (c : Char) : Prop where
  /-- It is its own lower-case form. -/
  lowerChar_eq : lowerChar c = c
  /-- It is not the letter that has two forms. -/
  ne_sigma : c ≠ 'Σ'
  /-- It is not the letter that becomes two characters. -/
  ne_dotted : c ≠ 'İ'

/-- Whether a character is settled is found by looking at it. -/
instance (c : Char) : Decidable (Settled c) :=
  decidable_of_iff (lowerChar c = c ∧ c ≠ 'Σ' ∧ c ≠ 'İ')
    ⟨fun ⟨hl, hs, hd⟩ ↦ ⟨hl, hs, hd⟩, fun ⟨hl, hs, hd⟩ ↦ ⟨hl, hs, hd⟩⟩

private theorem settled_lowerChar {c : Char} (hs : c ≠ 'Σ') (hd : c ≠ 'İ') :
    Settled (lowerChar c) := by
  by_cases hascii : c.toNat < 0x80
  · exact forall_ascii (P := fun c ↦ Settled (lowerChar c)) (by decide +kernel) hascii
  have hl : lowerChar c = Char.ofNat (mapRuns lowerRuns c.toNat) := by
    rw [lowerChar, if_neg hascii]
  rcases mapRuns_eq_or lowerRuns c.toNat with he | ⟨run, hr, hn, he⟩
  · have hself : lowerChar c = c := by rw [hl, he, Char.ofNat_toNat]
    rw [hself]
    exact ⟨hself, hs, hd⟩
  rcases mapRuns_beyond lowerRuns_beyond (Nat.le_of_not_lt hascii) c.valid with hk | ⟨hle, hv⟩
  · rw [hl, hk]
    decide
  · -- the lower-case form is in no run and is neither special letter, so it is settled
    have hmiss : ∀ other ∈ specialRuns ++ lowerRuns,
        ¬ (other.1 ≤ mapRuns lowerRuns c.toNat ∧ mapRuns lowerRuns c.toNat ≤ other.2.1 ∧
          (mapRuns lowerRuns c.toNat - other.1) % other.2.2.1 = 0) := by
      intro other ho
      rw [he]
      exact not_mem_of_runMisses
        (List.all_eq_true.mp (List.all_eq_true.mp lowerRuns_miss run hr) other ho) hn
    rw [hl]
    generalize mapRuns lowerRuns c.toNat = m at hle hv hmiss
    have htoNat : (Char.ofNat m).toNat = m := by
      rw [Char.ofNat, dif_pos hv]
      rfl
    refine ⟨?_, ?_, ?_⟩
    · rw [lowerChar, htoNat, if_neg (Nat.not_lt.mpr hle),
        mapRuns_of_missed fun run hr ↦ hmiss run (List.mem_append_right _ hr)]
    · intro hsigma
      have hm : m = 0x3A3 := htoNat.symm.trans (congrArg Char.toNat hsigma)
      exact hmiss (0x3A3, 0x3A3, 1, 0) (by simp [specialRuns]) (by rw [hm]; decide)
    · intro hdotted
      have hm : m = 0x130 := htoNat.symm.trans (congrArg Char.toNat hdotted)
      exact hmiss (0x130, 0x130, 1, 0) (by simp [specialRuns]) (by rw [hm]; decide)

private theorem settled_of_mem_lowerAfter {before s : List Char} {c : Char}
    (h : c ∈ lowerAfter before s) : Settled c := by
  induction s generalizing before with
  | nil => exact absurd h List.not_mem_nil
  | cons d rest ih =>
    rw [lowerAfter, List.mem_append] at h
    rcases h with h | h
    · split at h
      · split at h <;> rw [List.mem_singleton.mp h] <;> decide
      · next hsigma =>
        split at h
        · simp only [List.mem_cons, List.not_mem_nil, or_false] at h
          rcases h with rfl | rfl <;> decide
        · next hdotted =>
          rw [List.mem_singleton.mp h]
          exact settled_lowerChar hsigma hdotted
    · exact ih h

private theorem lowerAfter_of_settled (before : List Char) {s : List Char}
    (h : ∀ c ∈ s, Settled c) : lowerAfter before s = s := by
  induction s generalizing before with
  | nil => rfl
  | cons c rest ih =>
    have hc := h c List.mem_cons_self
    rw [lowerAfter, if_neg hc.ne_sigma, if_neg hc.ne_dotted, hc.lowerChar_eq,
      ih _ fun d hd ↦ h d (List.mem_cons_of_mem c hd)]
    rfl

/-- A text in lower case is its own lower-case form. -/
theorem lower_lower (s : String) : lower (lower s) = lower s := by
  have hsettled : ∀ c ∈ lowerAfter [] s.toList, Settled c := fun _ ↦ settled_of_mem_lowerAfter
  rw [lower, lower, String.toList_ofList, lowerAfter_of_settled [] hsettled]

/-- Only the empty text has an empty lower-case form. -/
theorem lower_eq_empty_iff {s : String} : lower s = "" ↔ s = "" := by
  constructor
  · intro h
    have hl := congrArg String.toList h
    rw [lower, String.toList_ofList] at hl
    cases hs : s.toList with
    | nil => exact String.toList_inj.mp hs
    | cons c rest =>
      rw [hs, lowerAfter] at hl
      have hnil := (List.append_eq_nil_iff.mp hl).1
      split at hnil
      · cases hnil
      · split at hnil <;> cases hnil
  · rintro rfl
    rfl

end CaptureFilter.Text
