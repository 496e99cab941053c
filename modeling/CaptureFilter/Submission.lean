import CaptureFilter.Criterion.Basic

/-!
# Submissions

A submission is a criterion as it is handed in: three names and an input, none of them checked. It
makes a criterion whose input is set, if only to the empty text.
Spec guidance: `SPEC_FULL.md` §4.1 (`Attribute.build`) and §C (`_build_attribute`).
-/

namespace CaptureFilter

open Text

/-- What names a section. -/
inductive SectionName where
  /-- A number. -/
  | number (n : Int)
  /-- A text. -/
  | text (s : String)
  deriving DecidableEq, Repr

/-- What names a section, as a value. -/
def SectionName.value : SectionName → Json.Value
  | .number n => .int n
  | .text s => .text s

/-- What names a section, in texts. -/
def SectionName.plain : SectionName → String
  | .number n => signedDecimal n
  | .text s => s

/-- What a value names a section by, if it may. -/
def SectionName.ofValue? : Json.Value → Option SectionName
  | .int n => some (.number n)
  | .text s => some (.text s)
  | _ => none

/-- The name of a section. -/
def SectionName.ofSection : Section → SectionName
  | .depth tags => .number tags.val
  | .preset => .text "preset"

/-- The name of a section shows as the section does. -/
@[simp] theorem SectionName.value_ofSection (place : Section) :
    (SectionName.ofSection place).value = place.value := by
  cases place <;> rfl

/-- A section is named by what it shows as. -/
theorem SectionName.ofValue?_value (place : Section) :
    ofValue? place.value = some (ofSection place) := by
  cases place <;> rfl

/-- A criterion as it is handed in. Supports `AttributeRequest`. -/
structure Submission where
  /-- The name of the kind. -/
  kind : String
  /-- The name of the section. -/
  place : SectionName
  /-- The name of the operator. -/
  operator : String
  /-- The input. -/
  input : String := ""
  deriving DecidableEq, Repr

/-- What compiling depends on besides what is handed in. -/
structure Context where
  /-- The table that protocol names are looked up in. -/
  protocols : Protocol.Source
  /-- The beginnings of the names of interfaces that carry no tags. -/
  untaggedPrefixes : List String

namespace Submission

/-- The criterion that a submission makes. Supports `_build_attribute`. -/
def criterion (protocols : Protocol.Source) (s : Submission) : Except Failure Criterion := do
  let c ← Criterion.read (.text s.kind) s.place.value (.text s.operator)
  c.setInputFrom protocols (some s.input)

/-- The submission that a view shows. -/
def ofView? (view : Json.Value) : Option Submission :=
  match view.field? "type", (view.field? "section").bind SectionName.ofValue?,
    view.field? "operator", view.field? "input" with
  | some (.text kind), some place, some (.text operator), some (.text input) =>
    some { kind, place, operator, input }
  | _, _, _, _ => none

/-- The submission of a criterion, which names its parts by their own names. -/
def ofCriterion (c : Criterion) : Submission where
  kind := c.kind.name
  place := .ofSection c.place
  operator := c.operator.name
  input := c.input.getD ""

/-- The view of a criterion shows its submission. -/
theorem ofView?_view (c : Criterion) : ofView? c.view = some (ofCriterion c) := by
  have hkind : c.view.field? "type" = some (.text c.kind.name) := rfl
  have hplace : c.view.field? "section" = some c.place.value := rfl
  have hoperator : c.view.field? "operator" = some (.text c.operator.name) := rfl
  have hinput : c.view.field? "input" = some (.text (c.input.getD "")) := rfl
  rw [ofView?, hkind, hplace, hoperator, hinput, Option.bind_some, SectionName.ofValue?_value]
  rfl

end Submission

end CaptureFilter
