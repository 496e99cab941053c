import CaptureFilter.Json.Value

/-!
# Validation

Values from outside are checked field by field. A check either gives a value or a list of problems,
each with its place, and the problems of several checks are reported together, in order.
Spec guidance: `SPEC_FULL.md` §A (`Settings`) and §C (`AttributeRequest`, `CompileRequest`).
-/

namespace CaptureFilter.Validation

open Text

/-- What is wrong with a value. -/
inductive ProblemKind where
  /-- A field that must be there is not. -/
  | missing
  /-- The value is no list. -/
  | notList
  /-- The value is no record. -/
  | notRecord
  /-- The value is no text. -/
  | notText
  /-- The value is no truth value. -/
  | notBool
  /-- The value stands for no truth value. -/
  | unreadableBool
  /-- The value is no whole number. -/
  | notInt
  /-- The text is no whole number. -/
  | unreadableInt
  /-- The text of a number is too long. -/
  | oversizedInt
  /-- The number is not whole. -/
  | fractionalInt
  /-- The number is not finite. -/
  | notFinite
  /-- The text is none of those allowed. -/
  | notListed
  deriving DecidableEq, Repr

/-- The name of a kind of problem. -/
def ProblemKind.name : ProblemKind → String
  | .missing => "missing"
  | .notList => "list_type"
  | .notRecord => "model_attributes_type"
  | .notText => "string_type"
  | .notBool => "bool_type"
  | .unreadableBool => "bool_parsing"
  | .notInt => "int_type"
  | .unreadableInt => "int_parsing"
  | .oversizedInt => "int_parsing_size"
  | .fractionalInt => "int_from_float"
  | .notFinite => "finite_number"
  | .notListed => "literal_error"

/-- A step on the way to a value. -/
inductive Step where
  /-- Into a field, or into one reading of a value. -/
  | field (name : String)
  /-- Into an item of a list. -/
  | item (index : Nat)
  deriving DecidableEq, Repr

/-- A step, as a value. -/
def Step.value : Step → Json.Value
  | .field name => .text name
  | .item index => .int index

/-- What is wrong, and where. -/
structure Problem where
  /-- What is wrong. -/
  kind : ProblemKind
  /-- The way to the value. -/
  place : List Step
  deriving DecidableEq, Repr

/-- A problem, as a value. -/
def Problem.account (p : Problem) : Json.Value :=
  .record [("type", .text p.kind.name), ("loc", .list (p.place.map Step.value))]

/-- The result of a check. -/
abbrev Checked (α : Type) := Except (List Problem) α

variable {α β : Type}

/-- A check that fails with one problem, at the place it looks at. -/
def reject (kind : ProblemKind) : Checked α := .error [⟨kind, []⟩]

/-- A check behind a step. -/
def behind (step : Step) (check : Checked α) : Checked α :=
  check.mapError (·.map fun p ↦ { p with place := step :: p.place })

/-- Two checks whose problems are reported together. -/
def both (first : Checked α) (second : Checked β) : Checked (α × β) :=
  match first, second with
  | .ok a, .ok b => .ok (a, b)
  | .ok _, .error problems => .error problems
  | .error problems, .ok _ => .error problems
  | .error problems, .error others => .error (problems ++ others)

/-- The checks of the items of a list, from an index on. -/
def itemsFrom (index : Nat) (check : Json.Value → Checked α) : List Json.Value → Checked (List α)
  | [] => .ok []
  | v :: rest =>
    (both (behind (.item index) (check v)) (itemsFrom (index + 1) check rest)).map
      fun (a, others) ↦ a :: others

/-- A list whose items are checked. -/
def listOf (check : Json.Value → Checked α) : Json.Value → Checked (List α)
  | .list items => itemsFrom 0 check items
  | _ => reject .notList

/-- A field that must be there. -/
def required (check : Json.Value → Checked α) (name : String) (v : Json.Value) : Checked α :=
  behind (.field name) ((v.field? name).elim (reject .missing) check)

/-- A field with a value to be used where it is missing. -/
def withDefault (default : α) (check : Json.Value → Checked α) (name : String) (v : Json.Value) :
    Checked α :=
  behind (.field name) ((v.field? name).elim (.ok default) check)

/-- A value that may be null. -/
def nullable (check : Json.Value → Checked α) : Json.Value → Checked (Option α)
  | .null => .ok none
  | v => (check v).map some

/-- A text. -/
def text : Json.Value → Checked String
  | .text s => .ok s
  | _ => reject .notText

/-- The words for a truth value, in lower case. -/
def boolWords : List (String × Bool) :=
  [("0", false), ("off", false), ("f", false), ("false", false), ("n", false), ("no", false),
    ("1", true), ("on", true), ("t", true), ("true", true), ("y", true), ("yes", true)]

/-- The truth value that a word stands for, whatever its case. -/
def boolOfWord (s : String) : Checked Bool :=
  match boolWords.find? fun (word, _) ↦ word.toList = s.toList.map Char.toLower with
  | some (_, b) => .ok b
  | none => reject .unreadableBool

/-- The truth value that a number stands for. -/
def boolOfInt (n : Int) : Checked Bool :=
  if n = 0 then .ok false
  else if n = 1 then .ok true
  else reject .unreadableBool

/-- Whether a number fits into sixty-four bits. -/
def fitsWord (n : Int) : Bool := -0x8000000000000000 ≤ n && n < 0x8000000000000000

/-- Whether a fraction that is kept as a whole number counts as one. The least number of sixty-four
bits does not. -/
def fitsFraction (n : Int) : Bool := -0x8000000000000000 < n && n < 0x8000000000000000

/-- A truth value, or what stands for one: a word, or one of the numbers zero and one. -/
def bool : Json.Value → Checked Bool
  | .bool b => .ok b
  | .text s => boolOfWord s
  | .int n => if fitsWord n then boolOfInt n else reject .notBool
  | .fraction f =>
    match f.toInt?.filter fitsFraction with
    | some n => boolOfInt n
    | none => reject .notBool
  | _ => reject .notBool

end CaptureFilter.Validation
