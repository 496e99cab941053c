import CaptureFilter.Expression.Compile

/-!
# Sessions

A session is a list of criteria that is edited and compiled step by step. A step that fails leaves
the list as it was.
Spec guidance: `SPEC_FULL.md` §4.2 (an ordered sequence of attributes).
-/

namespace CaptureFilter

/-- The criteria under work, and whether the interface carries tags. -/
structure Session where
  /-- The criteria, in order. -/
  criteria : List Criterion := []
  /-- Whether the interface carries tags. -/
  vlan : Bool := true

namespace Session

/-- Puts a criterion in front of the one at `index`, or at the end if there is none. -/
def insert (s : Session) (index : Nat) (c : Criterion) : Session :=
  { s with criteria := s.criteria.take index ++ c :: s.criteria.drop index }

/-- Puts a criterion at the end. -/
def push (s : Session) (c : Criterion) : Session := { s with criteria := s.criteria ++ [c] }

/-- Takes the criterion at `index` out. -/
def erase (s : Session) (index : Nat) : Session :=
  { s with criteria := s.criteria.eraseIdx index }

/-- Sets the input of the criterion at `index`. -/
def setInput (s : Session) (table : Protocol.Table) (index : Nat) (raw : Option String) :
    Except Failure Session := do
  match s.criteria[index]? with
  | none => return s
  | some c => return { s with criteria := s.criteria.set index (← c.setInput table raw) }

/-- The expression of the criteria. -/
def compile (s : Session) : Except CompileFault String := Expression.compile s.vlan s.criteria

end Session

end CaptureFilter
