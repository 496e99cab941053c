import CaptureFilter.Criterion.Basic
import CaptureFilter.Expression.Group

/-!
# Levels

A level holds what the criteria of one section ask for: each filter text is a term, and the terms
are joined in order by the operators of their criteria. Excluding a level drops its terms.
Spec guidance: `SPEC_FULL.md` §4.2 steps 2 and 3 (`SectionState`, `_group_sections`,
`_fill_sections`).
-/

namespace CaptureFilter.Expression

/-- What is asked for at one depth of tags. Supports `SectionState`. -/
structure Level where
  /-- The depth. -/
  index : Nat
  /-- Whether packets of this depth are left out. -/
  excluded : Bool := false
  /-- The last decision on the section. -/
  disposition : Option Operator := none
  /-- The terms, in order. -/
  terms : List String := []
  /-- The terms joined. -/
  text : String := ""
  deriving DecidableEq, Repr

namespace Level

/-- Whether packets of this depth are let in and compared. Supports `SectionState.filtered`. -/
def filtered (l : Level) : Bool := !l.excluded && !l.text.isEmpty

/-- Leaves the packets of this depth out. Supports `SectionState.exclude`. -/
def exclude (l : Level) : Level := { l with excluded := true, terms := [], text := "" }

/-- A term joined to what is asked for. -/
def joined (l : Level) (required : Bool) (term : String) : String :=
  if l.text.isEmpty then term
  else l.text ++ (if required then " and " else " or ") ++ term

/-- Adds a filter text, unless it is empty. Supports `SectionState.add`. -/
def addTerm (l : Level) (required : Bool) (filter : String) : Level :=
  if filter.isEmpty then l
  else
    { l with
      terms := l.terms ++ [group filter]
      text := l.joined required (group filter) }

/-- Adds what a criterion asks for. -/
def add (l : Level) (c : Criterion) : Level := l.addTerm c.operator.required c.filter

/-- The joined terms as one group. Supports `grouped_expression`. -/
def grouped (l : Level) : String := if l.terms.length = 1 then l.text else group l.text

/-- Takes a criterion of the section in: a decision or a filter. Nothing is taken in once the level
is left out. Supports `_group_sections`. -/
def absorb (l : Level) (c : Criterion) : Level :=
  if l.excluded then l
  else
    match c.kind with
    | .disposition =>
      let decided := { l with disposition := some c.operator }
      if c.operator = .none then decided.exclude else decided
    | _ => l.add c

/-- The criteria of a depth. -/
def criteriaAt (index : Nat) (cs : List Criterion) : List Criterion :=
  cs.filter fun c ↦
    match c.place with
    | .depth tags => tags.val == index
    | .preset => false

/-- The level that the criteria of a depth make. Supports `_group_sections`. -/
def ofCriteria (index : Nat) (cs : List Criterion) : Level :=
  (criteriaAt index cs).foldl absorb { index }

/-- The level of a depth that no criterion mentions is left out. -/
def atDepth (cs : List Criterion) (index : Nat) : Level :=
  if (criteriaAt index cs).isEmpty then { index, excluded := true } else ofCriteria index cs

/-- The depths that are mentioned. -/
def mentioned (cs : List Criterion) : List Nat :=
  (List.range 10).filter fun index ↦ !(criteriaAt index cs).isEmpty

/-- The levels of the depths that are mentioned. -/
def mentionedLevels (cs : List Criterion) : List Level :=
  (mentioned cs).map (ofCriteria · cs)

/-- The levels of all depths down to the deepest one mentioned. Supports `_fill_sections`. -/
def levels (cs : List Criterion) : List Level :=
  match (mentioned cs).getLast? with
  | none => []
  | some deepest => (List.range (deepest + 1)).map (atDepth cs)

end Level

end CaptureFilter.Expression
