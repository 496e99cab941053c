import CaptureFilter.Http.Request

/-!
# Request bodies

The reader of bodies that the services run with. Fields that are not known are passed over. The name
of a section may be a number or a text; a truth value counts as a number there, and so does a
fraction that is kept as a whole number of sixty-four bits.
Spec guidance: `SPEC_FULL.md` §C (`AttributeRequest`, `CompileRequest`).
-/

namespace CaptureFilter.Http

open Validation

/-- A value that is neither a number nor a text, by what keeps it from being a number. -/
def rejectSection {α : Type} (kind : ProblemKind) : Checked α :=
  .error [⟨kind, [.field "int"]⟩, ⟨.notText, [.field "str"]⟩]

/-- The name of a section. -/
def sectionName : Json.Value → Checked SectionName
  | .text s => .ok (.text s)
  | .int n => .ok (.number n)
  | .bool b => .ok (.number (if b then 1 else 0))
  | .fraction f =>
    match f.size?, f.toInt? with
    | none, _ => rejectSection .notFinite
    | some _, none => rejectSection .fractionalInt
    | some _, some n => if fitsFraction n then .ok (.number n) else rejectSection .oversizedInt
  | .nonFinite _ => rejectSection .notFinite
  | _ => rejectSection .notInt

/-- A record whose fields are checked. -/
def recordOf {α : Type} (check : Json.Value → Checked α) : Json.Value → Checked α
  | .record fields => check (.record fields)
  | _ => reject .notRecord

/-- A submission. -/
def submission : Json.Value → Checked Submission :=
  recordOf fun v ↦
    (both (required text "type" v)
      (both (required sectionName "section" v)
        (both (required text "match" v) (withDefault "" text "input" v)))).map
      fun (kind, place, operator, input) ↦ { kind, place, operator, input }

/-- A request for an expression. -/
def compileRequest : Json.Value → Checked CompileRequest :=
  recordOf fun v ↦
    (both (withDefault [] (listOf submission) "attributes" v)
      (both (withDefault none (nullable bool) "vlan_supported" v)
        (withDefault none (nullable text) "interface" v))).map
      fun (submissions, vlan, interface) ↦ { submissions, vlan, interface }

/-- A body, which must be there. -/
def body {α : Type} (check : Json.Value → Checked α) (v : Json.Value) : Checked α :=
  behind (.field "body") <|
    match v with
    | .null => reject .missing
    | v => check v

/-- The reader of bodies. -/
def bodyReader : BodyReader where
  submission := body submission
  compileRequest := body compileRequest

end CaptureFilter.Http
