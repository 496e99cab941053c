import CaptureFilter.Json.Token
import CaptureFilter.Json.Value
import CaptureFilter.Named
import CaptureFilter.Text.Numeral

/-!
# Reading JSON

Tokens are put together by a machine that holds the lists and records begun so far, the innermost
first. A field named twice keeps its first place and its last value.
Spec guidance: `SPEC_FULL.md` §C (request bodies).
-/

namespace CaptureFilter.Json

open Text

/-- The value of a number, from its sign, its digits before the point, the digits behind it if there
is a point, and its exponent if there is one. -/
def number (negative : Bool) (whole : List Char) (part : Option (List Char))
    (exponent : Option Int) : Value :=
  let digits := Nat.ofDigitChars 10 (whole ++ part.getD []) 0
  if part.isNone && exponent.isNone then .int (if negative then -(digits : Int) else digits)
  else .fraction { negative, digits, exponent := exponent.getD 0 - (part.getD []).length }

/-- The exponent written after its letter. -/
def exponent? (s : List Char) : Option Int :=
  match s with
  | '-' :: rest => if isNumber rest then some (-(Nat.ofDigitChars 10 rest 0 : Int)) else none
  | '+' :: rest => if isNumber rest then some (Nat.ofDigitChars 10 rest 0) else none
  | _ => if isNumber s then some (Nat.ofDigitChars 10 s 0) else none

/-- What follows the digits before the point of a number. Too many digits without a point or
exponent are no number. -/
def afterWhole (negative : Bool) (whole : List Char) : List Char → Option Value
  | [] =>
    if Numeral.maxDigits < whole.length then none else some (number negative whole none none)
  | '.' :: rest =>
    let part := rest.takeWhile Char.isDigit
    match part, rest.dropWhile Char.isDigit with
    | [], _ => none
    | _, [] => some (number negative whole (some part) none)
    | _, c :: tail =>
      if c = 'e' ∨ c = 'E' then
        (exponent? tail).map fun e ↦ number negative whole (some part) (some e)
      else none
  | c :: rest =>
    if c = 'e' ∨ c = 'E' then (exponent? rest).map fun e ↦ number negative whole none (some e)
    else none

/-- A number without its sign. -/
def unsigned? (negative : Bool) (s : List Char) : Option Value :=
  match s with
  | '0' :: rest => afterWhole negative ['0'] rest
  | _ =>
    let whole := s.takeWhile Char.isDigit
    if whole.isEmpty then none else afterWhole negative whole (s.dropWhile Char.isDigit)

/-- What a bare word denotes. -/
def bareValue? (s : List Char) : Option Value :=
  match String.ofList s with
  | "null" => some .null
  | "true" => some (.bool true)
  | "false" => some (.bool false)
  | "NaN" => some (.nonFinite "NaN")
  | "Infinity" => some (.nonFinite "Infinity")
  | "-Infinity" => some (.nonFinite "-Infinity")
  | _ =>
    match s with
    | '-' :: rest => unsigned? true rest
    | _ => unsigned? false s

/-- A list or record begun. -/
inductive Frame where
  /-- A list, its items last first. -/
  | list (items : List Value)
  /-- A record, and the key whose value is due. -/
  | record (fields : List (String × Value)) (key : String)

/-- What is due next. -/
inductive Due where
  /-- A value. -/
  | value
  /-- The first item of a list, or its end. -/
  | item
  /-- The first key of a record, or its end. -/
  | firstKey
  /-- A further key of a record. -/
  | key (fields : List (String × Value))
  /-- The colon after a key. -/
  | colon (fields : List (String × Value)) (key : String)
  /-- A comma or the end of what is innermost. -/
  | next (v : Value)

/-- The lists and records begun, and what is due. -/
abbrev Position := List Frame × Due

/-- The value that ends the innermost list or record, given its last item. -/
def Frame.close (frame : Frame) (last : Value) : Value :=
  match frame with
  | .list items => .list (last :: items).reverse
  | .record fields key => .record (Named.assign key last fields)

/-- The position after a token, or nothing where no value goes on. -/
def Position.step : Position → Token → Option Position
  | (frames, .value), token | (frames, .item), token =>
    match token with
    | .text s => some (frames, .next (.text s))
    | .bare s => (bareValue? s).map fun v ↦ (frames, .next v)
    | .openList => some (.list [] :: frames, .item)
    | .openRecord => some (frames, .firstKey)
    | _ => none
  | (frames, .firstKey), token =>
    match token with
    | .text s => some (frames, .colon [] s)
    | .closeRecord => some (frames, .next (.record []))
    | _ => none
  | (frames, .key fields), token =>
    match token with
    | .text s => some (frames, .colon fields s)
    | _ => none
  | (frames, .colon fields key), token =>
    match token with
    | .colon => some (.record fields key :: frames, .value)
    | _ => none
  | ([], .next _), _ => none
  | (frame :: frames, .next v), token =>
    match token, frame with
    | .comma, .list items => some (.list (v :: items) :: frames, .value)
    | .comma, .record fields key => some (frames, .key (Named.assign key v fields))
    | .closeList, .list _ => some (frames, .next (frame.close v))
    | .closeRecord, .record _ _ => some (frames, .next (frame.close v))
    | _, _ => none

/-- The end of a list that holds nothing. -/
def Position.stepEmpty : Position → Token → Option Position
  | (.list [] :: frames, .item), .closeList => some (frames, .next (.list []))
  | position, token => position.step token

/-- The position after all tokens. -/
def Position.run (position : Position) (all : List Token) : Option Position :=
  all.foldlM Position.stepEmpty position

/-- The value of a JSON text, or nothing where the text is not JSON. -/
def read? (s : String) : Option Value := do
  match ← Position.run ([], .value) (← tokens s.toList) with
  | ([], .next v) => some v
  | _ => none

end CaptureFilter.Json
