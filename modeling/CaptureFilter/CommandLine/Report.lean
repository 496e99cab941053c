import CaptureFilter.CommandLine.Box
import CaptureFilter.CommandLine.Choices
import CaptureFilter.Expression.Compile
import CaptureFilter.Program

/-!
# Answers on the command line

The entries of a command line, with the chosen preset before them, are compiled. The answer is a
JSON object or a report: a table of the criteria with their filter texts, and a panel with the
expression. A fault is shown alone.
Spec guidance: `SPEC_FULL.md` §D (`main`, `print_attributes`, `print_expression`, `print_error`).
-/

namespace CaptureFilter.CommandLine

/-- What a command line's choices have been compiled to. -/
structure Compiled where
  /-- The criteria, in order. -/
  criteria : List Criterion
  /-- Whether the interface carries tags. -/
  vlan : Bool
  /-- The expression. -/
  expression : String

/-- The criterion of a preset. -/
def Preset.criterion (preset : Preset) : Criterion where
  kind := .preset
  place := .preset
  operator := preset.val
  legal := by simp [combinationFault?, preset.property]

namespace Choices

/-- Whether the interface carries tags. -/
def vlan (choices : Choices) (untaggedPrefixes : List String) : Bool :=
  !choices.noVlan && Interface.carriesTags untaggedPrefixes choices.interface

/-- The criteria of the entries, with the preset before them. -/
def criteria (choices : Choices) (protocols : Protocol.Source) :
    Except EntryFault (List Criterion) := do
  let entered ← choices.entries.mapM (Criterion.ofEntry protocols)
  return (choices.preset.map Preset.criterion).toList ++ entered

/-- What the choices are compiled to. Supports `main`. -/
def compile (choices : Choices) (context : Context) : Except EntryFault Compiled := do
  let criteria ← choices.criteria context.protocols
  let vlan := choices.vlan context.untaggedPrefixes
  let expression ←
    (Expression.compile vlan criteria).mapError fun e ↦ .refused (.filter (.compile e))
  return { criteria, vlan, expression }

end Choices

/-- What is printed. -/
inductive Printed where
  /-- A JSON object. -/
  | json (v : Json.Value)
  /-- Lines. -/
  | lines (all : List (List Char))

/-- The answer to a command. -/
structure Answer where
  /-- The status that the program ends with. -/
  status : Nat
  /-- What is printed. -/
  printed : Printed

/-- The columns of the table of criteria. -/
def columns : List Column :=
  [{ heading := "Section", least := 8, centred := true }, { heading := "Type", least := 12 },
    { heading := "Match", least := 10 }, { heading := "Input" }, { heading := "Fragment" }]

/-- The row of a criterion. -/
def criterionRow (c : Criterion) : List Cell :=
  [c.place.name.toList, c.kind.name.toList, c.operator.name.toList,
    shown (c.input.getD ""), if c.filter.isEmpty then ['-'] else shown c.filter]

/-- The table of criteria. Supports `print_attributes`. -/
def criteriaTable (criteria : List Criterion) : List (List Char) :=
  if criteria.isEmpty then ["  ℹ No attributes given".toList]
  else table "Capture Attributes" columns (criteria.map criterionRow) ++ [[]]

/-- The panel of an expression. Supports `print_expression`. -/
def expressionPanel (expression : String) (vlan : Bool) : List (List Char) :=
  panel "pcap filter" (if vlan then "VLAN tags supported" else "no VLAN support")
    (if expression.isEmpty then "(empty: capture everything)".toList else shown expression)

/-- The name and version of the program. Supports `print_header`. -/
def banner : String := Program.name ++ " v" ++ Program.version

/-- The report of what has been compiled. -/
def Compiled.report (compiled : Compiled) : List (List Char) :=
  [banner.toList, []] ++ criteriaTable compiled.criteria ++
    expressionPanel compiled.expression compiled.vlan

/-- What has been compiled, as an object. -/
def Compiled.account (compiled : Compiled) : Json.Value :=
  .record [("expression", .text compiled.expression), ("vlan_supported", .bool compiled.vlan)]

/-- A fault as it is shown. Supports `print_error`. -/
def faultReport (fault : EntryFault) : List (List Char) :=
  shownLines terminalWidth ("  ✗ ".toList ++ shown fault.message)

/-- The answer to choices. Supports `main`. -/
def Choices.answer (choices : Choices) (context : Context) : Answer :=
  match choices.compile context with
  | .ok compiled =>
    ⟨0, if choices.json then .json compiled.account else .lines compiled.report⟩
  | .error fault =>
    ⟨2, if choices.json then .json (.record [("error", fault.account)])
      else .lines (faultReport fault)⟩

end CaptureFilter.CommandLine
