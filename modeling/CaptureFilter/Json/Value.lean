import CaptureFilter.Json.Fraction
import CaptureFilter.Text.Numeral

/-!
# JSON values

Values as clients send them, whole numbers kept apart from fractions, and the two texts that
messages show of a value: its display, with texts between quotation marks, and its plain form, which
for a text is the text itself. A value that holds a whole number of too many digits has neither.
Spec guidance: `SPEC_FULL.md` §7 (`InvalidAttribute` and the value it carries).
-/

namespace CaptureFilter.Json

open Text

/-- A JSON value. -/
inductive Value where
  /-- No value. -/
  | null
  /-- A truth value. -/
  | bool (b : Bool)
  /-- A number written without a point or exponent. -/
  | int (n : Int)
  /-- A number written with a point or exponent. -/
  | fraction (f : Fraction)
  /-- Infinity, its negative, or no number at all, by its name. -/
  | nonFinite (name : String)
  /-- A text. -/
  | text (s : String)
  /-- A list of values. -/
  | list (items : List Value)
  /-- A record of named values, in order. -/
  | record (fields : List (String × Value))
  deriving Inhabited, Repr

namespace Value

/-- The text in messages of a number that is not finite. -/
def nonFiniteText : String → String
  | "NaN" => "nan"
  | "Infinity" => "inf"
  | _ => "-inf"

mutual

/-- The text of a value in messages, unless it holds a number that cannot be written. -/
def display : Value → Except Numeral.Error String
  | .null => .ok "None"
  | .bool b => .ok (if b then "True" else "False")
  | .int n => Numeral.write n
  | .fraction f => .ok f.display
  | .nonFinite name => .ok (nonFiniteText name)
  | .text s => .ok (quoted s)
  | .list items => do return "[" ++ ", ".intercalate (← displayItems items) ++ "]"
  | .record fields => do
    return "\x7b" ++ ", ".intercalate (← displayFields fields) ++ "\x7d"

/-- The texts of the items of a list. -/
def displayItems : List Value → Except Numeral.Error (List String)
  | [] => .ok []
  | v :: rest => do return (← display v) :: (← displayItems rest)

/-- The texts of the fields of a record. -/
def displayFields : List (String × Value) → Except Numeral.Error (List String)
  | [] => .ok []
  | (key, v) :: rest => do
    return (quoted key ++ ": " ++ (← display v)) :: (← displayFields rest)

end

/-- The field of a record with a given name. -/
def field? (v : Value) (key : String) : Option Value :=
  match v with
  | .record fields => fields.lookup key
  | _ => none

end Value

/-- A value together with its text in messages. -/
structure Shown where
  /-- The value. -/
  value : Value
  /-- Its text. -/
  text : String
  /-- It is the text of the value. -/
  shows : value.display = .ok text
  deriving Repr

namespace Shown

/-- A value with its text, unless it holds a number that cannot be written. -/
def of (v : Value) : Except Numeral.Error Shown :=
  match h : v.display with
  | .ok text => .ok ⟨v, text, h⟩
  | .error e => .error e

/-- The plain form of a value: its text, without quotation marks where the value is a text. -/
def plain (shown : Shown) : String :=
  match shown.value with
  | .text s => s
  | _ => shown.text

end Shown

end CaptureFilter.Json
