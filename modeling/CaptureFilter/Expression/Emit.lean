import CaptureFilter.Expression.Formula
import CaptureFilter.Expression.Level
import CaptureFilter.Text.Cut

/-!
# Emission

Levels are written from depth zero upwards, and each tagged one begins with exactly one `vlan`,
since every `vlan` in an expression moves all that follows one tag deeper. A level that is left out
is stepped over if a deeper one is let in; otherwise it ends the expression, and so does an empty
level below which nothing is asked for.
Spec guidance: `SPEC_FULL.md` §4.2 steps 4 and 5 (`_emit`, `_fragment`, `_join`).
-/

namespace CaptureFilter.Expression

open Text

/-- The comparison for packets without a tag that does not move what follows. Supports
`UNTAGGED_WITHOUT_OFFSET`. -/
def untaggedTest : String := "not ether proto 0x8100 and not ether proto 0x88a8"

/-- What is written for a level. -/
inductive Clause where
  /-- Nothing: packets of this depth are left out by what follows. -/
  | nothing
  /-- That there is one more tag. -/
  | tag
  /-- That there is no further tag. -/
  | noTag
  /-- That there is no tag at all, in a way that does not move what follows. -/
  | untagged
  /-- What the level asks for. -/
  | terms
  /-- That there is one more tag, and what the level asks for behind it. -/
  | tagAndTerms
  deriving DecidableEq, Repr

/-- The text of a clause. -/
def Clause.text (level : Level) : Clause → String
  | .nothing => ""
  | .tag => "vlan"
  | .noTag => "not vlan"
  | .untagged => untaggedTest
  | .terms => level.text
  | .tagAndTerms => "vlan and " ++ level.grouped

/-- The clause of a level, and whether it is the last. -/
structure Piece where
  /-- The clause. -/
  clause : Clause
  /-- Whether no further level is written. -/
  last : Bool
  deriving DecidableEq, Repr

/-- What is written for a level, given whether packets may be tagged and the levels below. Supports
`_fragment`. -/
def piece (vlan : Bool) (level : Level) (below : List Level) : Except CompileFault Piece :=
  if level.excluded then
    if below.any (!·.excluded) then
      if level.index ≠ 0 then .ok ⟨.tag, false⟩
      else if vlan then .ok ⟨.nothing, false⟩
      else .error .untaggedExclusion
    else if level.index ≠ 0 then .ok ⟨.noTag, true⟩
    else if below.isEmpty && vlan then .ok ⟨.tag, true⟩
    else .error .excludesAll
  else if level.text.isEmpty then
    if level.index ≠ 0 then .ok ⟨.tag, below.all fun l ↦ !l.excluded && !l.filtered⟩
    else if !vlan then .ok ⟨.nothing, true⟩
    else if below.any (!·.excluded) then .ok ⟨.untagged, false⟩
    else .ok ⟨.noTag, true⟩
  else if level.index ≠ 0 then .ok ⟨.tagAndTerms, false⟩
  else .ok ⟨.terms, false⟩

/-- How what is written for two levels in a row is joined: a level left out passes on, a level taken
together with its neighbours asks for both, and all others are alternatives. Supports `_join`. -/
def joint (previous current : Level) : Joint :=
  if current.excluded || previous.excluded then .conj
  else if previous.disposition = some .allOf || current.disposition = some .allOf then .conj
  else .disj

/-- The levels written with their clauses, in order, up to the first that `stops` says is the last.
Without tags only depth zero is written. Supports `_emit`. -/
def writtenUpTo (stops : Piece → Bool) (vlan : Bool) :
    List Level → Except CompileFault (List (Level × Clause))
  | [] => .ok []
  | level :: below =>
    if 0 < level.index && !vlan then .ok []
    else do
      let piece ← piece vlan level below
      if stops piece then return [(level, piece.clause)]
      return (level, piece.clause) :: (← writtenUpTo stops vlan below)

/-- The levels written with their clauses, in order. -/
def written : Bool → List Level → Except CompileFault (List (Level × Clause)) :=
  writtenUpTo Piece.last

/-- A text as an operand: a group if it joins operands itself. -/
def operand (s : String) : String := if occurs " and ".toList s.toList then group s else s

/-- The tagged levels that follow one already written. -/
def chainAfter (previous : Level) : List (Level × String) → String
  | [] => ""
  | (level, text) :: rest => (joint previous level).word ++ operand text ++ chainAfter level rest

/-- The tagged levels joined. -/
def chain : List (Level × String) → String
  | [] => ""
  | [(_, text)] => text
  | (level, text) :: rest => operand text ++ chainAfter level rest

/-- The untagged part and the tagged part joined. -/
def joinParts (boundary : Joint) (untagged tagged : String) : String :=
  if untagged.isEmpty then tagged
  else if tagged.isEmpty then untagged
  else group untagged ++ boundary.word ++ group tagged

/-- How the untagged and the tagged part are joined: as alternatives if a tagged level is let in. -/
def boundary (levels : List Level) : Joint :=
  if levels.any fun l ↦ decide (0 < l.index) && !l.excluded then .disj else .conj

/-- The expression of levels written with their clauses. Supports `_emit`. -/
def assemble (boundary : Joint) (all : List (Level × Clause)) : String :=
  let texts := all.map fun (level, clause) ↦ (level, clause.text level)
  let untagged := "".intercalate ((texts.filter (·.1.index = 0)).map (·.2))
  joinParts boundary untagged (chain (texts.filter (0 < ·.1.index)))

/-- The expression of levels. Supports `_emit`. -/
def emit (vlan : Bool) (levels : List Level) : Except CompileFault String :=
  (written vlan levels).map (assemble (boundary levels))

end CaptureFilter.Expression
