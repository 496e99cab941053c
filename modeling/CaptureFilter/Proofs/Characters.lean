import CaptureFilter.Text.Blank
import CaptureFilter.Text.Cut
import CaptureFilter.Text.Digit

/-!
# The characters of texts

Which characters stand in a text that is split, joined, cut or written as a number.
Spec guidance: `SPEC_FULL.md` §4.1 (tokens of an input).
-/

namespace CaptureFilter.Text

/-! ### Splitting and joining -/

/-- A character of joined parts stands between them or in one of them. -/
theorem mem_intercalate {sep : List Char} {parts : List (List Char)} {c : Char}
    (h : c ∈ sep.intercalate parts) : c ∈ sep ∨ ∃ part ∈ parts, c ∈ part := by
  induction parts with
  | nil => exact absurd h List.not_mem_nil
  | cons first rest ih =>
    cases rest with
    | nil =>
      rw [List.intercalate_singleton] at h
      exact .inr ⟨first, List.mem_cons_self, h⟩
    | cons second others =>
      rw [List.intercalate_cons_cons, List.mem_append, List.mem_append] at h
      rcases h with (h | h) | h
      · exact .inr ⟨first, List.mem_cons_self, h⟩
      · exact .inl h
      · rcases ih h with h | ⟨part, hp, hc⟩
        · exact .inl h
        · exact .inr ⟨part, List.mem_cons_of_mem first hp, hc⟩

/-- A character of a part stands in the joined parts. -/
theorem mem_intercalate_of_mem {sep : List Char} {parts : List (List Char)} {part : List Char}
    {c : Char} (hp : part ∈ parts) (hc : c ∈ part) : c ∈ sep.intercalate parts := by
  induction parts with
  | nil => exact absurd hp List.not_mem_nil
  | cons first rest ih =>
    cases rest with
    | nil =>
      rw [List.mem_singleton] at hp
      rw [List.intercalate_singleton, ← hp]
      exact hc
    | cons second others =>
      rw [List.intercalate_cons_cons, List.mem_append, List.mem_append]
      rcases List.mem_cons.mp hp with rfl | hm
      · exact .inl (.inl hc)
      · exact .inr (ih hm)

/-- A character of joined texts stands between them or in one of them. -/
theorem mem_toList_intercalate {sep : String} {texts : List String} {c : Char}
    (h : c ∈ (sep.intercalate texts).toList) : c ∈ sep.toList ∨ ∃ t ∈ texts, c ∈ t.toList := by
  rw [String.toList_intercalate] at h
  rcases mem_intercalate h with h | ⟨part, hp, hc⟩
  · exact .inl h
  · obtain ⟨t, ht, rfl⟩ := List.mem_map.mp hp
    exact .inr ⟨t, ht, hc⟩

/-- A text's characters are its separators and those of its parts. -/
theorem mem_or_mem_of_splitOn (sep : Char) {s : List Char} {c : Char} (h : c ∈ s) :
    c = sep ∨ ∃ part ∈ s.splitOn sep, c ∈ part := by
  have hs : [sep].intercalate (s.splitOn sep) = s := List.intercalate_splitOn sep
  rw [← hs] at h
  rcases mem_intercalate h with h | h
  · exact .inl (List.mem_singleton.mp h)
  · exact .inr h

/-- A part's characters are the text's. -/
theorem mem_of_mem_splitOn {sep : Char} {s part : List Char} {c : Char} (hp : part ∈ s.splitOn sep)
    (hc : c ∈ part) : c ∈ s := by
  have hs : [sep].intercalate (s.splitOn sep) = s := List.intercalate_splitOn sep
  rw [← hs]
  exact mem_intercalate_of_mem hp hc

/-- No separator stands in a part. -/
theorem forall_mem_splitOnP {p : Char → Bool} {s part : List Char}
    (h : part ∈ s.splitOnP p) : ∀ c ∈ part, p c = false := by
  induction s generalizing part with
  | nil =>
    rw [List.splitOnP_nil, List.mem_singleton] at h
    rw [h]
    exact fun c hc ↦ absurd hc List.not_mem_nil
  | cons c rest ih =>
    rw [List.splitOnP_cons_eq_if_modifyHead] at h
    split at h
    · rcases List.mem_cons.mp h with rfl | hm
      · exact fun c hc ↦ absurd hc List.not_mem_nil
      · exact ih hm
    · next hc =>
      cases hs : rest.splitOnP p with
      | nil => exact absurd hs (List.splitOnP_ne_nil p rest)
      | cons first others =>
        rw [hs, List.modifyHead_cons] at h
        rcases List.mem_cons.mp h with rfl | hm
        · intro d hd
          rcases List.mem_cons.mp hd with rfl | hm
          · exact Bool.eq_false_iff.mpr hc
          · exact ih (by rw [hs]; exact List.mem_cons_self) d hm
        · exact ih (by rw [hs]; exact List.mem_cons_of_mem first hm)

/-- A text falls into two parts exactly if one separator stands between them. -/
theorem splitOn_eq_pair_iff {sep : Char} {s first second : List Char} :
    s.splitOn sep = [first, second] ↔
      sep ∉ first ∧ sep ∉ second ∧ s = first ++ sep :: second := by
  constructor
  · intro h
    have hs : [sep].intercalate (s.splitOn sep) = s := List.intercalate_splitOn sep
    rw [h] at hs
    have hnot (part : List Char) (hp : part ∈ s.splitOn sep) : sep ∉ part := by
      intro hm
      rw [List.splitOn_eq_splitOnP] at hp
      simpa using forall_mem_splitOnP hp sep hm
    exact ⟨hnot first (by simp [h]), hnot second (by simp [h]), by simpa using hs.symm⟩
  · rintro ⟨hf, hs, rfl⟩
    rw [List.splitOn_append_cons_self_of_not_mem hf, List.splitOn_eq_singleton hs]

/-- A word is not empty and holds no blank. -/
theorem word_spec {s word : String} (h : word ∈ words s) :
    word ≠ "" ∧ ∀ c ∈ word.toList, isBlank c = false := by
  obtain ⟨part, hp, rfl⟩ := List.mem_map.mp h
  rw [wordsOf, List.mem_filter] at hp
  rw [String.toList_ofList]
  refine ⟨?_, forall_mem_splitOnP hp.1⟩
  intro he
  have hl := congrArg String.toList he
  rw [String.toList_ofList] at hl
  simp [hl] at hp

/-! ### Cutting -/

/-- The characters of the two parts of a cut text are the text's. -/
theorem mem_of_cut {mark : Char} {s before after : List Char}
    (h : cut mark s = (before, some after)) : (∀ c ∈ before, c ∈ s) ∧ ∀ c ∈ after, c ∈ s := by
  have hs := cut_restore h
  rw [hs]
  exact ⟨fun c hc ↦ List.mem_append_left _ hc,
    fun c hc ↦ List.mem_append_right _ (List.mem_cons_of_mem mark hc)⟩

/-- What a text is cut at stands in it. -/
theorem mark_mem_of_cut {mark : Char} {s before after : List Char}
    (h : cut mark s = (before, some after)) : mark ∈ s := by
  rw [cut_restore h]
  exact List.mem_append_right _ List.mem_cons_self

/-! ### Numbers -/

private theorem isHexDigit_digitChar : ∀ n < 16, isHexDigit n.digitChar = true := by decide

private theorem isHexDigit_of_mem_toDigits {n : Nat} {c : Char} (h : c ∈ Nat.toDigits 16 n) :
    isHexDigit c = true := by
  induction n using Nat.strongRecOn with
  | ind n ih =>
    rw [Nat.toDigits_eq_if (by decide)] at h
    split at h
    · next hn =>
      rw [List.mem_singleton.mp h]
      exact isHexDigit_digitChar n hn
    · next hn =>
      rcases List.mem_append.mp h with h | h
      · exact ih (n / 16) (Nat.div_lt_self (by omega) (by decide)) h
      · rw [List.mem_singleton.mp h]
        exact isHexDigit_digitChar (n % 16) (Nat.mod_lt n (by decide))

/-- A number is written in hexadecimal digits only. -/
theorem isHexDigit_of_mem_hexDigits {width n : Nat} {c : Char} (h : c ∈ hexDigits width n) :
    isHexDigit c = true := by
  rw [hexDigits, List.leftpad, List.mem_append] at h
  rcases h with h | h
  · rw [List.eq_of_mem_replicate h]
    decide
  · exact isHexDigit_of_mem_toDigits h

/-- Hexadecimal digits are at least one. -/
theorem hexDigits_ne_nil (width n : Nat) : hexDigits width n ≠ [] := by
  rw [hexDigits, List.leftpad]
  intro h
  exact Nat.toDigits_ne_nil (List.append_eq_nil_iff.mp h).2

/-- Decimal digits are at least one. -/
theorem decimal_ne_empty (n : Nat) : (decimal n).toList ≠ [] := by
  rw [decimal, String.toList_ofList]
  exact Nat.toDigits_ne_nil

/-- A whole number is written with decimal digits and perhaps a minus sign. -/
theorem isDigit_of_mem_signedDecimal {n : Int} {c : Char} (h : c ∈ (signedDecimal n).toList) :
    c.isDigit = true ∨ c = '-' := by
  cases n with
  | ofNat n => exact .inl (isDigit_of_mem_decimal h)
  | negSucc n =>
    rw [signedDecimal, String.toList_append, List.mem_append] at h
    rcases h with h | h
    · exact .inr (List.mem_singleton.mp h)
    · exact .inl (isDigit_of_mem_decimal h)

/-- A whole number has at least one character. -/
theorem signedDecimal_ne_empty (n : Int) : (signedDecimal n).toList ≠ [] := by
  cases n with
  | ofNat n => exact decimal_ne_empty n
  | negSucc n =>
    rw [signedDecimal, String.toList_append]
    intro h
    exact decimal_ne_empty _ (List.append_eq_nil_iff.mp h).2

end CaptureFilter.Text
