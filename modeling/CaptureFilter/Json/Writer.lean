import CaptureFilter.Json.Value

/-!
# Writing JSON

A value on one line of ASCII text: a space after each comma and colon, and everything outside the
printable ASCII characters escaped in units of sixteen bits.
Spec guidance: `SPEC_FULL.md` §D (`--json`).
-/

namespace CaptureFilter.Json

open Text

/-- A sixteen-bit unit as an escape. -/
def escapeUnit (n : Nat) : List Char := '\\' :: 'u' :: hexDigits 4 n

/-- One character of a JSON string. -/
def encodeChar (c : Char) : List Char :=
  if c = '"' || c = '\\' then ['\\', c]
  else if c = '\n' then ['\\', 'n']
  else if c = '\r' then ['\\', 'r']
  else if c = '\t' then ['\\', 't']
  else if c = '\x08' then ['\\', 'b']
  else if c = '\x0c' then ['\\', 'f']
  else if 0x20 ≤ c.toNat ∧ c.toNat < 0x7F then [c]
  else if c.toNat < 0x10000 then escapeUnit c.toNat
  else
    let n := c.toNat - 0x10000
    escapeUnit (0xD800 + n / 0x400) ++ escapeUnit (0xDC00 + n % 0x400)

/-- A text as a JSON string. -/
def encodeText (s : String) : String := "\"" ++ String.ofList (s.toList.flatMap encodeChar) ++ "\""

namespace Value

mutual

/-- A value as JSON. -/
def render : Value → String
  | .null => "null"
  | .bool true => "true"
  | .bool false => "false"
  | .int n => signedDecimal n
  | .fraction f => f.text "Infinity"
  | .nonFinite name => name
  | .text s => encodeText s
  | .list items => "[" ++ ", ".intercalate (renderItems items) ++ "]"
  | .record fields => "\x7b" ++ ", ".intercalate (renderFields fields) ++ "\x7d"

/-- The items of a list as JSON. -/
def renderItems : List Value → List String
  | [] => []
  | v :: rest => render v :: renderItems rest

/-- The fields of a record as JSON. -/
def renderFields : List (String × Value) → List String
  | [] => []
  | (key, v) :: rest => (encodeText key ++ ": " ++ render v) :: renderFields rest

end

end Value

end CaptureFilter.Json
