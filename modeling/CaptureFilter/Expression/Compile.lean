import CaptureFilter.Expression.Emit

/-!
# Compilation

Criteria become one filter expression. A preset among them decides alone; otherwise their levels are
written out. The empty expression lets every packet in.
Spec guidance: `SPEC_FULL.md` §4.2 steps 1 and 6 (`compile`, `_compile_preset`,
`REDUNDANT_EXPRESSIONS`).
-/

namespace CaptureFilter.Expression

/-- The expression of a preset. Supports `_compile_preset`. -/
def ofPreset (vlan : Bool) : Operator → Except CompileFault String
  | .any => .ok ""
  | .untagged => .ok (if vlan then "not vlan" else "")
  | .tagged => if vlan then .ok "vlan" else .error .taggedPreset
  | op => .error (.unsupportedPreset op)

/-- The criteria's levels. A preset has no level. Supports `_group_sections`. -/
def levels? (cs : List Criterion) : Except CompileFault (List Level) :=
  match cs.find? (·.kind == .preset) with
  | some c => .error (.strayPreset c.display)
  | none => .ok (Level.levels cs)

/-- The expression for untagged or tagged packets lets every packet in. Supports
`REDUNDANT_EXPRESSIONS`. -/
def dropTautology (expression : String) : String :=
  if expression = "(" ++ untaggedTest ++ ") or (vlan)" then "" else expression

/-- The expression of criteria, for an interface that carries tags or does not. Supports
`ExpressionCompiler.compile`. -/
def compile (vlan : Bool) (cs : List Criterion) : Except CompileFault String :=
  match cs.find? Criterion.isPreset with
  | some c => ofPreset vlan c.operator
  | none => do
    let levels ← levels? cs
    if levels.isEmpty then return ""
    return dropTautology (← emit vlan levels)

end CaptureFilter.Expression
