import CaptureFilter.Expression.Formula
import CaptureFilter.Expression.Lexeme

/-!
# The grammar of expressions

An expression is read as the capture library reads it: `not` applies to the operand that follows it,
while `and` and `or` have the same precedence and join from the left. The reader is a machine that
holds one context for each parenthesis that is open.
Spec guidance: `SPEC_FULL.md` §1 (filter expression syntax).
-/

namespace CaptureFilter.Expression

/-- What stands before an operand that is due: a formula that it is joined to, if there is one, and
a number of negations. -/
structure Due where
  /-- The formula before the operand, and how it is joined. -/
  left : Option (Formula × Joint) := none
  /-- The negations of the operand. -/
  negations : Nat := 0
  deriving DecidableEq, Repr

/-- The formula that an operand completes. -/
def Due.complete (due : Due) (operand : Formula) : Formula :=
  let operand := operand.negated due.negations
  match due.left with
  | none => operand
  | some (left, joint) => joint.join left operand

/-- Where the reader stands. The contexts in `outer` are those of the open parentheses, the
innermost first. -/
inductive Standing where
  /-- An operand is due. -/
  | due (here : Due) (outer : List Due)
  /-- A formula is complete. -/
  | complete (f : Formula) (outer : List Due)
  deriving DecidableEq, Repr

namespace Standing

/-- Where the reader stands after a token, or nothing where no expression goes on. -/
def step : Standing → Token → Option Standing
  | .due here outer, .negation => some (.due { here with negations := here.negations + 1 } outer)
  | .due here outer, .opened => some (.due {} (here :: outer))
  | .due here outer, .comparison s =>
    some (.complete (here.complete (.atom (String.ofList s))) outer)
  | .complete f outer, .conjunction => some (.due { left := some (f, .conj) } outer)
  | .complete f outer, .disjunction => some (.due { left := some (f, .disj) } outer)
  | .complete f (here :: outer), .closed => some (.complete (here.complete f) outer)
  | _, _ => none

/-- Where the reader stands after tokens. -/
def run : Standing → List Token → Option Standing
  | standing, [] => some standing
  | standing, token :: rest => (standing.step token).bind (·.run rest)

/-- Reading tokens in two parts is reading them at once. -/
theorem run_append (standing : Standing) (s t : List Token) :
    standing.run (s ++ t) = (standing.run s).bind (·.run t) := by
  induction s generalizing standing with
  | nil => rfl
  | cons token rest ih =>
    simp only [List.cons_append, run, Option.bind_assoc]
    cases standing.step token <;> simp [ih]

end Standing

/-- The formula of tokens. -/
def Formula.ofTokens? (all : List Token) : Option Formula :=
  match Standing.run (.due {} []) all with
  | some (.complete f []) => some f
  | _ => none

/-- The formula of an expression. -/
def Formula.ofText? (expression : String) : Option Formula :=
  ofTokens? (tokens expression.toList)

end CaptureFilter.Expression
