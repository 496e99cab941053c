/-!
# Formulas

A formula is what an expression says, without its parentheses. Its atoms are comparisons, looked at
as deep in the packet as `vlan` has been written before them: every `vlan` asks for one more tag and
moves all that follows, to the end of the text, behind that tag.
Spec guidance: `SPEC_FULL.md` §1 and §3 (what a filter expression says of nested tags).
-/

namespace CaptureFilter.Expression

/-- A formula over comparisons. -/
inductive Formula where
  /-- A comparison. -/
  | atom (text : String)
  /-- The negation of a formula. -/
  | neg (f : Formula)
  /-- Two formulas, both of which must hold. -/
  | conj (f g : Formula)
  /-- Two formulas, one of which must hold. -/
  | disj (f g : Formula)
  deriving DecidableEq, Repr

/-- How a formula is joined to one before it. -/
inductive Joint where
  /-- Both must hold. -/
  | conj
  /-- One must hold. -/
  | disj
  deriving DecidableEq, Repr

/-- Two formulas joined. -/
def Joint.join : Joint → Formula → Formula → Formula
  | .conj => .conj
  | .disj => .disj

/-- The word that joins, between blanks. -/
def Joint.word : Joint → String
  | .conj => " and "
  | .disj => " or "

/-- A packet: the number of its tags, and the comparisons that hold at each depth. -/
structure Packet where
  /-- The number of tags. -/
  tags : Nat
  /-- Whether a comparison holds behind a number of tags. -/
  truth : Nat → String → Bool

namespace Formula

/-- The atom that asks for one more tag. -/
def vlan : Formula := .atom "vlan"

/-- The number of times that one more tag is asked for. -/
def depth : Formula → Nat
  | .atom text => if text = "vlan" then 1 else 0
  | .neg f => f.depth
  | .conj f g | .disj f g => f.depth + g.depth

/-- The atoms in the order they are written in, each with the number of `vlan` atoms before it. -/
def atoms (before : Nat) : Formula → List (Nat × String)
  | .atom text => [(before, text)]
  | .neg f => f.atoms before
  | .conj f g | .disj f g => f.atoms before ++ g.atoms (before + f.depth)

/-- Whether a formula that follows a number of `vlan` atoms holds of a packet. -/
def holds (p : Packet) (before : Nat) : Formula → Bool
  | .atom text => if text = "vlan" then decide (before < p.tags) else p.truth before text
  | .neg f => !f.holds p before
  | .conj f g => f.holds p before && g.holds p (before + f.depth)
  | .disj f g => f.holds p before || g.holds p (before + f.depth)

/-- A formula negated a number of times. -/
def negated : Nat → Formula → Formula
  | 0, f => f
  | n + 1, f => .neg (f.negated n)

/-- Formulas joined from the left in one way. -/
def joined? (joint : Joint) : List Formula → Option Formula
  | [] => none
  | f :: rest => some (rest.foldl joint.join f)

/-- The depth of a formula is the number of its `vlan` atoms. -/
theorem countP_atoms (f : Formula) (before : Nat) :
    (f.atoms before).countP (·.2 = "vlan") = f.depth := by
  induction f generalizing before with
  | atom text => by_cases h : text = "vlan" <;> simp [atoms, depth, h]
  | neg f ih => simpa [atoms, depth] using ih before
  | conj f g ihf ihg | disj f g ihf ihg => simp [atoms, depth, ihf, ihg]

end Formula

end CaptureFilter.Expression
