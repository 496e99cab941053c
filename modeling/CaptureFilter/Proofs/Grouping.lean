import CaptureFilter.Expression.Group
import CaptureFilter.Proofs.Balance

/-!
# Groups and matching parentheses

The test for one group finds exactly the texts whose parentheses match, put in one more pair. So
what is made a group is one exactly if its parentheses match, and only then is it left as it is when
it is made a group again.
Spec guidance: `SPEC_FULL.md` §4.2 step 5 (`_is_grouped`, `_group`).
-/

namespace CaptureFilter.Expression

/-- A text is one group: a text whose parentheses match, in one more pair of parentheses. -/
def OneGroup (s : String) : Prop := ∃ u : String, Balanced u.toList ∧ s = "(" ++ u ++ ")"

variable {s t : String}

/-- Behind open parentheses a text and a closing one close exactly at the end if no beginning of the
text closes what is open, and the whole leaves one parenthesis open. -/
theorem closesAtEnd_append_iff {depth : Int} (hd : 0 < depth) (text : List Char) :
    closesAtEnd depth (text ++ [')']) = true ↔
      0 < depth + leastOpen text ∧ depth + openParentheses text = 1 := by
  induction text generalizing depth with
  | nil =>
    rw [List.nil_append, closesAtEnd, if_neg (by decide), if_pos rfl, if_neg (by simp), closesAtEnd,
      leastOpen, openParentheses_nil, beq_iff_eq]
    omega
  | cons c rest ih =>
    -- the closing one is not the last character, so nothing may be closed here
    have hmore : (rest ++ [')']).isEmpty = false := by simp
    have hle := leastOpen_nonpos rest
    rw [List.cons_append, closesAtEnd, hmore, leastOpen, openParentheses_cons, parenthesis]
    by_cases ho : c = '('
    · rw [if_pos ho, if_pos ho, ih (by omega)]
      omega
    · rw [if_neg ho, if_neg ho]
      by_cases hc : c = ')'
      · rw [if_pos hc, if_pos hc]
        by_cases h1 : depth = 1
        · rw [if_pos (by simp [h1])]
          refine iff_of_false Bool.false_ne_true ?_
          omega
        · rw [if_neg (by simp [h1]), ih (by omega)]
          omega
      · rw [if_neg hc, if_neg hc, ih hd]
        omega

/-- A text in parentheses is taken for one group exactly if its parentheses match. -/
theorem isGroup_parenthesised_iff :
    isGroup ("(" ++ s ++ ")") = true ↔ Balanced s.toList := by
  have hle := leastOpen_nonpos s.toList
  have hends : ('(' :: (s.toList ++ [')'])).getLast? = some ')' := by
    rw [← List.cons_append, List.getLast?_concat]
  rw [isGroup, toList_parenthesised, List.head?_cons, hends, closesAtEnd, if_pos rfl, Int.zero_add,
    BEq.rfl, BEq.rfl, Bool.true_and, Bool.true_and, closesAtEnd_append_iff Int.one_pos,
    balanced_iff]
  omega

/-- A text that begins with an opening parenthesis and ends with a closing one is a text in
parentheses. -/
theorem exists_parenthesised (hh : s.toList.head? = some '(') (hl : s.toList.getLast? = some ')') :
    ∃ u : String, s = "(" ++ u ++ ")" := by
  obtain ⟨rest, hrest⟩ := List.head?_eq_some_iff.mp hh
  rw [hrest] at hl
  obtain ⟨front, hfront⟩ := List.getLast?_eq_some_iff.mp hl
  cases front with
  | nil => cases hfront
  | cons c inner =>
    rw [List.cons_append] at hfront
    obtain ⟨rfl, rfl⟩ := List.cons.inj hfront
    refine ⟨String.ofList inner, String.toList_injective ?_⟩
    rw [hrest, toList_parenthesised, String.toList_ofList]

/-- A text is taken for one group exactly if it is one. -/
theorem isGroup_iff : isGroup s = true ↔ OneGroup s := by
  constructor
  · intro h
    have hends := h
    rw [isGroup, Bool.and_eq_true, Bool.and_eq_true, beq_iff_eq, beq_iff_eq] at hends
    obtain ⟨u, rfl⟩ := exists_parenthesised hends.1.1 hends.1.2
    exact ⟨u, isGroup_parenthesised_iff.mp h, rfl⟩
  · rintro ⟨u, hu, rfl⟩
    exact isGroup_parenthesised_iff.mpr hu

/-- The parentheses of one group match. -/
theorem OneGroup.balanced (h : OneGroup s) : Balanced s.toList := by
  obtain ⟨u, hu, rfl⟩ := h
  exact hu.parenthesised

/-- A text as a group is one exactly if its parentheses match. -/
theorem oneGroup_group_iff : OneGroup (group s) ↔ Balanced s.toList := by
  rw [group]
  split
  · next h => exact iff_of_true (isGroup_iff.mp h) (isGroup_iff.mp h).balanced
  · rw [← isGroup_iff, isGroup_parenthesised_iff]

/-- A text as a group matches if it does. -/
theorem Balanced.group (h : Balanced s.toList) : Balanced (group s).toList :=
  (oneGroup_group_iff.mpr h).balanced

/-- A text is left as it is exactly if it is taken for one group. -/
theorem group_eq_self_iff : group s = s ↔ isGroup s = true := by
  refine ⟨fun h ↦ ?_, group_of_isGroup⟩
  rw [group] at h
  split at h
  · next hg => exact hg
  · -- the text would be longer than itself
    have hlength := congrArg (·.toList.length) h
    rw [toList_parenthesised, List.length_cons, List.length_append,
      List.length_singleton] at hlength
    omega

/-- A text that leaves nothing open is no group together with a text behind it. -/
theorem isGroup_append_eq_false (hs : openParentheses s.toList = 0) (hne : s ≠ "")
    (ht : t ≠ "") : isGroup (s ++ t) = false := by
  refine Bool.eq_false_iff.mpr fun h ↦ ?_
  obtain ⟨u, hu, he⟩ := isGroup_iff.mp h
  have hchars := congrArg String.toList he
  rw [String.toList_append, toList_parenthesised] at hchars
  cases hsl : s.toList with
  | nil => exact hne (String.toList_eq_nil_iff.mp hsl)
  | cons c rest =>
    -- all of the text but the group's first parenthesis is a beginning of what the group encloses
    rw [hsl, List.cons_append] at hchars
    obtain ⟨rfl, hinner⟩ := List.cons.inj hchars
    have hfront : rest <+: u.toList := by
      rcases List.eq_nil_or_concat t.toList with hnil | ⟨before, last, hlast⟩
      · exact absurd (String.toList_eq_nil_iff.mp hnil) ht
      · rw [hlast, List.concat_eq_append, ← List.append_assoc] at hinner
        exact ⟨before, (List.append_inj' hinner rfl).1⟩
    have hopen := hu.opens_first rest hfront
    have hfirst : parenthesis '(' = 1 := by decide
    rw [hsl, openParentheses_cons, hfirst] at hs
    omega

/-- With parentheses matching as their counts say, the test for one group finds exactly the texts
that match, put in one more pair; and a text made a group is one, and stays as it is when it is made
a group again, exactly if its parentheses match. -/
theorem grouping_iff_balanced (text : String) :
    (Balanced text.toList ↔
        (∀ front, front <+: text.toList → front.count ')' ≤ front.count '(') ∧
          text.toList.count '(' = text.toList.count ')') ∧
      (isGroup text = true ↔ ∃ u : String, Balanced u.toList ∧ text = "(" ++ u ++ ")") ∧
      (isGroup (group text) = true ↔ Balanced text.toList) ∧
      (group (group text) = group text ↔ Balanced text.toList) := by
  have hgroup : isGroup (group text) = true ↔ Balanced text.toList :=
    isGroup_iff.trans oneGroup_group_iff
  exact ⟨balanced_iff_count, isGroup_iff, hgroup, group_eq_self_iff.trans hgroup⟩

/-- Two groups beside each other are none, and become one. -/
example : isGroup "(a) or (b)" = false ∧ isGroup (group "(a) or (b)") = true := by decide

/-- A text whose parentheses do not match becomes no group, however often it is made one. -/
example : group (group "a) or (b") = "((a) or (b))" := by decide

end CaptureFilter.Expression
