/-!
# Cutting text once

A text is cut at its first mark; putting the mark back restores it.
Spec guidance: `SPEC_FULL.md` §4.2 step 5 (`_emit`), §6 (`from_lines`) and §D (`parse_attribute`).
-/

namespace CaptureFilter.Text

/-- The text before the first `mark`, and the text after it if there is one. -/
def cut (mark : Char) : List Char → List Char × Option (List Char)
  | [] => ([], none)
  | c :: rest =>
    if c = mark then ([], some rest) else (c :: (cut mark rest).1, (cut mark rest).2)

/-- Putting the mark back restores the text. -/
theorem cut_restore {mark : Char} {s before after : List Char}
    (h : cut mark s = (before, some after)) : s = before ++ mark :: after := by
  induction s generalizing before with
  | nil => simp [cut] at h
  | cons c rest ih =>
    simp only [cut] at h
    split at h
    · next hc => simp_all
    · simp only [Prod.mk.injEq] at h
      obtain ⟨rfl, ha⟩ := h
      rw [List.cons_append, ← ih (Prod.ext rfl ha)]

/-- A text that holds no mark is all before it. -/
theorem cut_of_not_mem {mark : Char} {s : List Char} (h : mark ∉ s) : cut mark s = (s, none) := by
  induction s with
  | nil => rfl
  | cons c rest ih =>
    simp only [List.mem_cons, not_or] at h
    simp [cut, Ne.symm h.1, ih h.2]

/-- A text is cut at the mark that follows a part without one. -/
theorem cut_append_cons {mark : Char} {before : List Char} (h : mark ∉ before) (after : List Char) :
    cut mark (before ++ mark :: after) = (before, some after) := by
  induction before with
  | nil => simp [cut]
  | cons c rest ih =>
    simp only [List.mem_cons, not_or] at h
    simp [cut, Ne.symm h.1, ih h.2]

/-- The text between the marks, as texts. -/
def fields (mark : Char) (s : String) : List String := (s.toList.splitOn mark).map String.ofList

/-- Whether `part` occurs somewhere in a text. -/
def occurs (part : List Char) : List Char → Bool
  | [] => part.isEmpty
  | c :: rest => part.isPrefixOf (c :: rest) || occurs part rest

end CaptureFilter.Text
