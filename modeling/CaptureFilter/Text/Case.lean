import CaptureFilter.Text.CaseTable

/-!
# Lower case

The lower-case form of a text of any script. Two letters need more than a table of single
characters: the capital I with a dot gives an i and a separate dot, and the capital sigma gives the
final form where it ends a word.
Spec guidance: `SPEC_FULL.md` §3 (`_parse_type`, `_parse_match`) and §6 (`lookup`).
-/

namespace CaptureFilter.Text

/-- Whether a code point lies in one of the ranges. -/
def inRanges (ranges : List (Nat × Nat)) (n : Nat) : Bool :=
  ranges.any fun (first, last) ↦ first ≤ n && n ≤ last

/-- The code point that a table of runs gives for `n`, or `n` itself where no run has it. -/
def mapRuns : List (Nat × Nat × Nat × Nat) → Nat → Nat
  | [], n => n
  | (first, last, step, target) :: rest, n =>
    if first ≤ n ∧ n ≤ last ∧ (n - first) % step = 0 then target + (n - first) else mapRuns rest n

/-- The lower-case form of a single character. -/
def lowerChar (c : Char) : Char :=
  if c.toNat < 0x80 then
    if 'A' ≤ c ∧ c ≤ 'Z' then Char.ofNat (c.toNat + 32) else c
  else Char.ofNat (mapRuns lowerRuns c.toNat)

/-- Whether a character is passed over in the search for a word's end. -/
def isCaseIgnorable (c : Char) : Bool := inRanges caseIgnorableRanges c.toNat

/-- Whether a character is a letter that has a case. -/
def isCased (c : Char) : Bool := inRanges casedRanges c.toNat

/-- Whether the first character that is not passed over has a case. -/
def startsCased (s : List Char) : Bool :=
  match s.dropWhile isCaseIgnorable with
  | [] => false
  | c :: _ => isCased c

/-- The lower-case form of a text that follows `before`, which is given last character first. -/
def lowerAfter (before : List Char) : List Char → List Char
  | [] => []
  | c :: rest =>
    let lowered :=
      if c = 'Σ' then [if startsCased before && !startsCased rest then 'ς' else 'σ']
      else if c = 'İ' then ['i', '\u0307']
      else [lowerChar c]
    lowered ++ lowerAfter (c :: before) rest

/-- The lower-case form of a text. -/
def lower (s : String) : String := String.ofList (lowerAfter [] s.toList)

/-- A character below the Latin supplement is lowered on its own, wherever it stands. -/
theorem lowerAfter_cons_of_lt (before : List Char) (c : Char) (rest : List Char)
    (h : c.toNat < 0x80) :
    lowerAfter before (c :: rest) = lowerChar c :: lowerAfter (c :: before) rest := by
  have hs : c ≠ 'Σ' := by rintro rfl; exact absurd h (by decide)
  have hi : c ≠ 'İ' := by rintro rfl; exact absurd h (by decide)
  simp [lowerAfter, hs, hi]

end CaptureFilter.Text
