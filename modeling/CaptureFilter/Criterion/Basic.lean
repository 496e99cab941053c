import CaptureFilter.Criterion.Fragment

/-!
# Criteria

A criterion is a kind, a section and an operator that may stand together. Its input can be set once;
the fragments of its tokens, and with them the filter text, are then fixed. Reading looks at the
kind, the section and the operator in this order, and the first that has no such value is at fault;
after that the combination is.
Spec guidance: `SPEC_FULL.md` §3 and §4.1 (`Attribute`, its construction contract and `set_input`).
-/

namespace CaptureFilter

open Text

/-- What is wrong with a combination, if anything is. Supports `_validate_combination`. -/
def combinationFault? (kind : Kind) (place : Section) (op : Operator) : Option Fault :=
  if place = .preset ∨ kind = .preset then
    if kind ≠ .preset then some (.notAPreset kind)
    else if place ≠ .preset then some (.presetElsewhere place)
    else if !op.onPreset then some (.noSuchPreset op)
    else none
  else if kind = .disposition then
    if !op.onSection then some (.noSuchDisposition op)
    else if op = .allOf ∧ place.isUntagged then some .allOfUntagged
    else none
  else if !op.onField then some (.notForKind op kind)
  else none

/-- A capture criterion. Supports `Attribute`. -/
structure Criterion where
  /-- What it speaks of. -/
  kind : Kind
  /-- The section it belongs to. -/
  place : Section
  /-- The operator. -/
  operator : Operator
  /-- The three may stand together. -/
  legal : combinationFault? kind place operator = none
  /-- The input, once it is set. -/
  input : Option String := none
  /-- The fragments of the input's tokens. -/
  fragments : List Fragment := []

namespace Criterion

/-- A refused criterion. -/
def refuse {α : Type} (fault : Fault) : Except Failure α := .error (.filter (.criterion fault))

/-- A criterion refused for a value that a part does not have. The message shows the value, so that
a number in it that cannot be written stands in the way of the message. -/
def refuseValue {α : Type} (part : Part) (value : Json.Value) : Except Failure α := do
  let shown ← (Json.Shown.of value).mapError .numeral
  refuse (.unreadable part shown)

/-- The criterion of a combination, if it may stand. -/
def make (kind : Kind) (place : Section) (operator : Operator) : Except Failure Criterion :=
  match h : combinationFault? kind place operator with
  | some fault => refuse fault
  | none => .ok { kind, place, operator, legal := h }

/-- A combination that may stand makes a criterion. -/
theorem make_of_legal {kind : Kind} {place : Section} {operator : Operator}
    (legal : combinationFault? kind place operator = none) :
    make kind place operator = .ok { kind, place, operator, legal } := by
  unfold make
  split
  · next hfault =>
    rw [legal] at hfault
    cases hfault
  · rfl

/-- What a text is found to name; all other values are refused. -/
def readNamed {α : Type} (part : Part) (found : String → Option α) (value : Json.Value) :
    Except Failure α :=
  match value with
  | .text s => (found s).elim (refuseValue part value) .ok
  | _ => refuseValue part value

/-- The kind that a value names. Supports `_parse_type`. -/
def readKind : Json.Value → Except Failure Kind := readNamed .kind Kind.ofText?

/-- The section that a value names: its number, as a number or in ASCII digits, or the word for the
preset section. Digits that name no section are blamed as the number they denote. Supports
`_parse_section`. -/
def readSection (value : Json.Value) : Except Failure Section :=
  let ofNumber (n : Int) := (Section.ofInt? n).elim (refuseValue .section (.int n)) .ok
  match value with
  | .int n => ofNumber n
  | .text s =>
    let name := lower (trim s)
    if name = "preset" then .ok .preset
    else if isNumber name.toList then do ofNumber (← Fragment.number name)
    else refuseValue .section value
  | _ => refuseValue .section value

/-- The operator that a value names. Supports `_parse_match`. -/
def readOperator : Json.Value → Except Failure Operator := readNamed .operator Operator.ofText?

/-- The criterion that three values name. Supports `Attribute.__init__`. -/
def read (kind place operator : Json.Value) : Except Failure Criterion := do
  let kind ← readKind kind
  let place ← readSection place
  let operator ← readOperator operator
  make kind place operator

/-- Whether the criterion is a preset. Supports `is_preset`. -/
def isPreset (c : Criterion) : Bool := c.place == .preset

/-- The filter text. Supports `filter_string`. -/
def filter (c : Criterion) : String := Fragment.combine c.operator c.fragments

/-- The fragments of tokens. Presets and decisions on sections have none, whatever their input.
Supports `_compile_tokens`. -/
def fragmentsOf (c : Criterion) (table : Protocol.Table) (tokens : List String) :
    Except Failure (List Fragment) :=
  match c.kind, c.place with
  | .packet field, .depth depth => tokens.mapM (Fragment.ofToken table depth field)
  | _, _ => .ok []

/-- Sets the input. Nothing is kept unless every token is accepted. Supports `set_input`. -/
def setInput (c : Criterion) (table : Protocol.Table) (raw : Option String) :
    Except Failure Criterion :=
  if c.input.isSome then refuse (.inputSet raw)
  else do
    let text := raw.getD ""
    let fragments ← c.fragmentsOf table (words text)
    return { c with input := some text, fragments }

/-- Whether setting the input has a protocol name looked up. -/
def consults (c : Criterion) (raw : Option String) : Bool :=
  c.input.isNone && c.kind == .packet .protocol && Fragment.consults (words (raw.getD ""))

/-- Sets the input with a table that is asked for only if a name is looked up. Supports
`set_input`. -/
def setInputFrom (c : Criterion) (source : Protocol.Source) (raw : Option String) :
    Except Failure Criterion :=
  if c.consults raw then do
    let table ← source.mapError .numeral
    c.setInput table raw
  else c.setInput .empty raw

/-- Builds a criterion and sets its input if there is one, with a table that is asked for only if a
name is looked up. A faulty criterion is an answer; a numeral that cannot be read or written is not.
Supports `Attribute.build`. -/
def buildFrom (kind place operator : Json.Value) (source : Protocol.Source) (raw : Option String) :
    Except Numeral.Error (Except FilterError Criterion) :=
  let built : Except Failure Criterion := do
    let c ← read kind place operator
    if raw.isSome then c.setInputFrom source raw else return c
  match built with
  | .ok c => .ok (.ok c)
  | .error (.filter e) => .ok (.error e)
  | .error (.numeral e) => .error e

/-- Builds a criterion with a table that is to hand. -/
def build (kind place operator : Json.Value) (table : Protocol.Table) (raw : Option String) :
    Except Numeral.Error (Except FilterError Criterion) :=
  buildFrom kind place operator (.ok table) raw

/-- Where no input is set yet, setting it stores the text and the fragments of its words. -/
theorem setInput_of_none {c : Criterion} (hn : c.input = none) (table : Protocol.Table)
    (raw : Option String) :
    c.setInput table raw = (c.fragmentsOf table (words (raw.getD ""))).map fun fragments ↦
      { c with input := some (raw.getD ""), fragments } := by
  rw [setInput, hn, if_neg (by simp)]
  dsimp only
  cases c.fragmentsOf table (words (raw.getD "")) <;> rfl

/-- Setting the input keeps the kind, the section and the operator, and stores the text. -/
theorem setInput_keeps {c d : Criterion} {table : Protocol.Table} {raw : Option String}
    (h : c.setInput table raw = .ok d) :
    d.kind = c.kind ∧ d.place = c.place ∧ d.operator = c.operator ∧
      d.input = some (raw.getD "") := by
  unfold setInput at h
  split at h
  · cases h
  · cases hf : c.fragmentsOf table (words (raw.getD "")) with
    | error e => simp [hf, bind, Except.bind] at h
    | ok fragments =>
      simp only [hf, bind, Except.bind, pure, Except.pure, Except.ok.injEq] at h
      subst h
      exact ⟨rfl, rfl, rfl, rfl⟩

/-- The criterion as clients see it. Supports `to_dict`. -/
def view (c : Criterion) : Json.Value :=
  .record [("type", .text c.kind.name), ("section", c.place.value),
    ("operator", .text c.operator.name), ("input", .text (c.input.getD "")),
    ("filter", .text c.filter), ("exclude", .bool c.operator.excludes),
    ("required", .bool c.operator.required)]

/-- The criterion in messages. Supports `__repr__`. -/
def display (c : Criterion) : String :=
  let place :=
    match c.place with
    | .depth tags => decimal tags.val
    | .preset => quoted "preset"
  "Attribute(type=" ++ quoted c.kind.name ++ ", section=" ++ place ++
    ", operator=" ++ quoted c.operator.name ++ ", filter=" ++ quoted c.filter ++ ")"

end Criterion

end CaptureFilter
