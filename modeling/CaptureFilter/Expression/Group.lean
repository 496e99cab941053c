/-!
# Groups

A group is a text in one pair of parentheses that encloses all of it. Text that is to stand as an
operand is made a group unless it is one.
Spec guidance: `SPEC_FULL.md` §4.2 steps 2 and 5 (`_is_grouped`, `_group`).
-/

namespace CaptureFilter.Expression

/-- Whether parentheses close exactly at the end of a text that follows `depth` open ones: each
closing one before the end leaves others open, and none is open behind the last character. Supports
`_is_grouped`. -/
def closesAtEnd (depth : Int) : List Char → Bool
  | [] => depth == 0
  | c :: rest =>
    if c = '(' then closesAtEnd (depth + 1) rest
    else if c = ')' then
      if depth = 1 && !rest.isEmpty then false else closesAtEnd (depth - 1) rest
    else closesAtEnd depth rest

/-- Whether a text is one group. Supports `_is_grouped`. -/
def isGroup (s : String) : Bool :=
  s.toList.head? == some '(' && s.toList.getLast? == some ')' && closesAtEnd 0 s.toList

/-- The text as a group. Supports `_group`. -/
def group (s : String) : String := if isGroup s then s else "(" ++ s ++ ")"

/-- A group stays as it is. -/
theorem group_of_isGroup {s : String} (h : isGroup s = true) : group s = s := by
  simp [group, h]

/-- A group says something. -/
theorem group_ne_empty (s : String) : group s ≠ "" := by
  rw [group]
  split
  · next h =>
    rintro rfl
    exact absurd h (by decide)
  · exact fun he ↦ absurd (String.append_eq_empty_iff.mp he).2 (by decide)

end CaptureFilter.Expression
