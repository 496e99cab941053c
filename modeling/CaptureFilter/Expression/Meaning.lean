import CaptureFilter.Expression.Compile
import CaptureFilter.Expression.Formula

/-!
# What criteria mean

The formula that criteria ask for, put together without any text: fragments into the formula of a
criterion, criteria into that of a section, and the clauses of the sections, joined from the left,
into that of them all. It is what the expression of the criteria is to be read as.
Spec guidance: `SPEC_FULL.md` §4.1 and §4.2 (how fragments, criteria and sections are combined).
-/

namespace CaptureFilter

open Expression

/-- The formula of a fragment. -/
def Fragment.formula : Fragment → Formula
  | .ping =>
    .disj
      (.disj
        (.disj (.atom "icmp[icmptype] = icmp-echo") (.atom "icmp[icmptype] = icmp-echoreply"))
        (.atom "icmp6[icmp6type] = icmp6-echo"))
      (.atom "icmp6[icmp6type] = icmp6-echoreply")
  | .ipsec => .disj (.atom "esp") (.conj (.atom "udp port 4500") (.atom "udp[8:4] != 0"))
  | .hardwareStart octets =>
    .disj (.atom (octetsAt octets 0)) (.atom (octetsAt octets 6))
  | fragment => .atom fragment.text

/-- The formula of a criterion, unless it asks for nothing. -/
def Criterion.formula? (c : Criterion) : Option Formula :=
  let parts := c.fragments.map Fragment.formula
  if c.operator.excludes then Formula.joined? .conj (parts.map .neg)
  else if c.operator.conjoins then Formula.joined? .conj parts
  else Formula.joined? .disj parts

namespace Expression

/-- A formula with one more criterion's joined to it. -/
def withCriterion (f : Formula) (required : Bool) (g : Formula) : Formula :=
  if required then .conj f g else .disj f g

/-- The formula of the section of an index, unless it asks for nothing. -/
def sectionFormula? (index : Nat) (cs : List Criterion) : Option Formula :=
  let asked := (Level.criteriaAt index cs).filterMap fun c ↦
    c.formula?.map fun f ↦ (c.operator.required, f)
  match asked with
  | [] => none
  | (_, f) :: rest => some (rest.foldl (fun f (required, g) ↦ withCriterion f required g) f)

/-- The formula of a clause, given that of its section. -/
def Clause.formula? (asked : Option Formula) : Clause → Option Formula
  | .nothing => none
  | .tag => some .vlan
  | .noTag => some (.neg .vlan)
  | .untagged =>
    some (.conj (.neg (.atom "ether proto 0x8100")) (.neg (.atom "ether proto 0x88a8")))
  | .terms => asked
  | .tagAndTerms => asked.map (.conj .vlan)

/-- The formula of a level's clause joined to one before it, and so on. -/
def chainFormulaAfter (previous : Level) (f : Formula) : List (Level × Formula) → Formula
  | [] => f
  | (level, g) :: rest => chainFormulaAfter level ((joint previous level).join f g) rest

/-- The formulas of tagged levels joined. -/
def chainFormula? : List (Level × Formula) → Option Formula
  | [] => none
  | (level, f) :: rest => some (chainFormulaAfter level f rest)

/-- The formulas of the untagged and the tagged part joined, either of which may be missing. -/
def joinFormulas? (boundary : Joint) : Option Formula → Option Formula → Option Formula
  | some f, some g => some (boundary.join f g)
  | some f, none => some f
  | none, tagged => tagged

/-- The formula of criteria whose levels are written with clauses. -/
def assembleFormula? (cs : List Criterion) (boundary : Joint) (all : List (Level × Clause)) :
    Option Formula :=
  let formulas := all.filterMap fun (level, clause) ↦
    (clause.formula? (sectionFormula? level.index cs)).map fun f ↦ (level, f)
  joinFormulas? boundary ((formulas.find? (·.1.index = 0)).map (·.2))
    (chainFormula? (formulas.filter (0 < ·.1.index)))

/-- The formula that criteria without a preset ask for; nothing is asked for if there is none. -/
def formula (vlan : Bool) (cs : List Criterion) : Except CompileFault (Option Formula) :=
  let levels := Level.levels cs
  (written vlan levels).map (assembleFormula? cs (boundary levels))

/-- Whether the formula of an expression lets a packet in. The empty expression has none and lets
every packet in. -/
def letsIn (expression : Option Formula) (p : Packet) : Bool :=
  match expression with
  | none => true
  | some f => f.holds p 0

/-- The expression of levels if an empty level never ended it. -/
def emitUnabridged (vlan : Bool) (levels : List Level) : Except CompileFault String :=
  (writtenUpTo (fun piece ↦ piece.last && piece.clause ≠ .tag) vlan levels).map
    (assemble (boundary levels))

end Expression

end CaptureFilter
