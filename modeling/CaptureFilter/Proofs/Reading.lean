import CaptureFilter.Expression.Grammar
import CaptureFilter.Proofs.Grouping
import CaptureFilter.Proofs.Characters
import CaptureFilter.Proofs.Lexing

/-!
# Texts that read as formulas

A phrase is a text that the reader takes for a formula where nothing stands before it. An operand is
one that it takes for a formula wherever an operand is due. Phrases are put together by joints whose
right side is an operand; a group makes an operand of every phrase.
Spec guidance: `SPEC_FULL.md` §1 (filter expression syntax).
-/

namespace CaptureFilter.Expression

/-- A text that reads as a formula wherever an operand is due. -/
structure Operand (s : String) (f : Formula) : Prop where
  /-- It leaves no parenthesis open. -/
  closed : openParentheses s.toList = 0
  /-- The reader completes what is due by the formula. -/
  run : ∀ here outer,
    Standing.run (.due here outer) (tokens s.toList) = some (.complete (here.complete f) outer)

/-- A text that reads as a formula where nothing stands before it. -/
structure Phrase (s : String) (f : Formula) : Prop where
  /-- It leaves no parenthesis open. -/
  closed : openParentheses s.toList = 0
  /-- The reader completes the formula. -/
  run : ∀ outer, Standing.run (.due {} outer) (tokens s.toList) = some (.complete f outer)
  /-- Where it is a group it is an operand. -/
  operand_of_isGroup : isGroup s = true → Operand s f

/-- One more negation before an operand is the negation of the operand. -/
theorem Formula.negated_neg (n : Nat) (f : Formula) :
    (Formula.neg f).negated n = f.negated (n + 1) := by
  induction n with
  | zero => rfl
  | succ n ih => rw [Formula.negated, ih]; rfl

namespace Operand

variable {s : String} {f : Formula}

/-- An operand is a phrase. -/
theorem phrase (h : Operand s f) : Phrase s f where
  closed := h.closed
  run := fun outer ↦ by rw [h.run {} outer]; rfl
  operand_of_isGroup := fun _ ↦ h

/-- Words between blanks are an operand, a comparison. -/
theorem of_words (words : List (List Char)) (hs : s.toList = [' '].intercalate words)
    (hne : words ≠ []) (h : ∀ w ∈ words, isWord w = true) : Operand s (.atom s) where
  closed := by
    apply openParentheses_eq_zero
    intro c hc
    rw [hs] at hc
    rcases Text.mem_intercalate hc with hc | ⟨w, hw, hc⟩
    · rw [List.mem_singleton.mp hc]
      decide
    · exact not_parenthesis_of_isWord (h w hw) c hc
  run := fun here outer ↦ by
    rw [hs, tokens_words hne h, Standing.run, Standing.step, Option.bind_some, Standing.run, ← hs,
      String.ofList_toList]

/-- A negated operand is an operand. -/
theorem negated (h : Operand s f) : Operand ("not " ++ s) (.neg f) where
  closed := by
    rw [String.toList_append, openParentheses_append, h.closed]
    decide
  run := fun here outer ↦ by
    rw [tokens_not, Standing.run, Standing.step, Option.bind_some, h.run, Due.complete,
      Due.complete, Formula.negated_neg]

end Operand

namespace Phrase

variable {s t : String} {f g : Formula}

/-- A phrase is not empty. -/
theorem ne_empty (h : Phrase s f) : s ≠ "" := by
  rintro rfl
  have hr := h.run []
  simp [tokens, lexemes, lexemesFrom, endWord, tokensOf, Standing.run] at hr

/-- A phrase in parentheses is an operand. -/
theorem parenthesised (h : Phrase s f) : Operand ("(" ++ s ++ ")") f where
  closed := by rw [openParentheses_parenthesised, h.closed]
  run := fun here outer ↦ by
    rw [tokens_parenthesised, Standing.run, Standing.step, Option.bind_some, Standing.run_append,
      h.run, Option.bind_some, Standing.run, Standing.step, Option.bind_some, Standing.run]

/-- A phrase as a group is an operand. -/
theorem group (h : Phrase s f) : Operand (group s) f := by
  rw [Expression.group]
  split
  · next hg => exact h.operand_of_isGroup hg
  · exact h.parenthesised

/-- A phrase and an operand joined are a phrase. -/
theorem join (h : Phrase s f) (ht : Operand t g) (joint : Joint) :
    Phrase (s ++ joint.word ++ t) (joint.join f g) where
  closed := by
    have hw : openParentheses joint.word.toList = 0 := by cases joint <;> decide
    rw [String.toList_append, String.toList_append, openParentheses_append, openParentheses_append,
      h.closed, ht.closed, hw]
    rfl
  run := fun outer ↦ by
    rw [tokens_joined, Standing.run_append, h.run, Option.bind_some, Standing.run]
    have hstep : Standing.step (.complete f outer) joint.token =
        some (.due { left := some (f, joint) } outer) := by
      cases joint <;> rfl
    rw [hstep, Option.bind_some, ht.run]
    rfl
  operand_of_isGroup := fun hg ↦ by
    -- the first phrase closes all it opens, so that no group goes on behind it
    have hw : joint.word ++ t ≠ "" := fun he ↦
      ht.phrase.ne_empty (String.append_eq_empty_iff.mp he).2
    rw [String.append_assoc, isGroup_append_eq_false h.closed h.ne_empty hw] at hg
    exact absurd hg Bool.false_ne_true

/-- A phrase that is a whole expression reads as its formula. -/
theorem ofText? (h : Phrase s f) : Formula.ofText? s = some f := by
  rw [Formula.ofText?, Formula.ofTokens?, h.run]

end Phrase

section Intercalate

variable {α : Type} {joint : Joint} {text : α → String} {formula : α → Formula}

private theorem phrase_intercalate_cons {first : String} {f : Formula} (hf : Phrase first f)
    (xs : List α) (h : ∀ x ∈ xs, Operand (text x) (formula x)) :
    Phrase (joint.word.intercalate (first :: xs.map text))
      ((xs.map formula).foldl joint.join f) := by
  induction xs generalizing first f with
  | nil =>
    rw [List.map_nil, List.map_nil, String.intercalate_singleton]
    exact hf
  | cons x rest ih =>
    have hx : Operand (text x) (formula x) := h x List.mem_cons_self
    -- what has been joined so far is the first text of what is still to be joined
    have hr := ih (hf.join hx joint) fun y hy ↦ h y (List.mem_cons_of_mem x hy)
    rw [String.intercalate_cons_append] at hr
    rw [List.map_cons, List.map_cons, List.foldl_cons, String.intercalate_cons_cons]
    exact hr

/-- Operands joined in one way read as their formulas joined. -/
theorem Phrase.intercalate {f : Formula} {xs : List α}
    (h : ∀ x ∈ xs, Operand (text x) (formula x))
    (hf : Formula.joined? joint (xs.map formula) = some f) :
    Phrase (joint.word.intercalate (xs.map text)) f := by
  cases xs with
  | nil => exact absurd hf (by simp [Formula.joined?])
  | cons x rest =>
    rw [List.map_cons, Formula.joined?] at hf
    rw [← Option.some.inj hf]
    exact phrase_intercalate_cons (h x List.mem_cons_self).phrase rest
      fun y hy ↦ h y (List.mem_cons_of_mem x hy)

end Intercalate

end CaptureFilter.Expression
