import CaptureFilter.Text.Digit

/-!
# JSON tokens

JSON text is first cut into tokens by a machine that reads one character at a time: marks, strings,
and bare words between them. What a bare word denotes is left to the reader of values.
Spec guidance: `SPEC_FULL.md` §C (request bodies).
-/

namespace CaptureFilter.Json

open Text

/-- A token of JSON text. -/
inductive Token where
  /-- An opening square bracket. -/
  | openList
  /-- A closing square bracket. -/
  | closeList
  /-- An opening brace. -/
  | openRecord
  /-- A closing brace. -/
  | closeRecord
  /-- A comma. -/
  | comma
  /-- A colon. -/
  | colon
  /-- A string, its escapes resolved. -/
  | text (s : String)
  /-- A number or a name. -/
  | bare (s : List Char)
  deriving DecidableEq, Repr

/-- Whether a character is blank between tokens. -/
def isJsonBlank (c : Char) : Bool := c = ' ' || c = '\t' || c = '\n' || c = '\r'

/-- The mark that a character is on its own. -/
def mark? : Char → Option Token
  | '[' => some .openList
  | ']' => some .closeList
  | '\x7b' => some .openRecord
  | '\x7d' => some .closeRecord
  | ',' => some .comma
  | ':' => some .colon
  | _ => none

/-- The code that a one-letter escape stands for. -/
def shortEscape? : Char → Option Nat
  | '"' => some 0x22
  | '\\' => some 0x5C
  | '/' => some 0x2F
  | 'b' => some 0x08
  | 'f' => some 0x0C
  | 'n' => some 0x0A
  | 'r' => some 0x0D
  | 't' => some 0x09
  | _ => none

/-- The characters of a row of codes: a high and a low surrogate in a row make one character, and
any other surrogate becomes the replacement character. -/
def ofCodes : List Nat → List Char
  | [] => []
  | high :: low :: rest =>
    if 0xD800 ≤ high ∧ high < 0xDC00 ∧ 0xDC00 ≤ low ∧ low < 0xE000 then
      Char.ofNat (0x10000 + (high - 0xD800) * 0x400 + (low - 0xDC00)) :: ofCodes rest
    else ofCode high :: ofCodes (low :: rest)
  | [code] => [ofCode code]
where
  /-- The character of a code that is not paired. -/
  ofCode (code : Nat) : Char :=
    if 0xD800 ≤ code ∧ code < 0xE000 then '\uFFFD' else Char.ofNat code

/-- Where the machine stands; codes and characters read are kept last first. -/
inductive Mode where
  /-- Between tokens. -/
  | between
  /-- In a bare word. -/
  | bare (seen : List Char)
  /-- In a string. -/
  | quoted (seen : List Nat)
  /-- After a backslash in a string. -/
  | escaped (seen : List Nat)
  /-- In a numeric escape, of which `due` digits are missing. -/
  | numeric (seen : List Nat) (code due : Nat)
  deriving DecidableEq, Repr

/-- The token that ends when a bare word ends. -/
def Mode.pending : Mode → List Token
  | .bare seen => [.bare seen.reverse]
  | _ => []

/-- A character outside strings. -/
def Mode.outside (mode : Mode) (c : Char) : List Token × Mode :=
  if isJsonBlank c then (mode.pending, .between)
  else if c = '"' then (mode.pending, .quoted [])
  else
    match mark? c, mode with
    | some token, _ => (mode.pending ++ [token], .between)
    | none, .bare seen => ([], .bare (c :: seen))
    | none, _ => ([], .bare [c])

/-- The tokens that a character ends and the next mode, or nothing where no JSON text goes on. -/
def Mode.step (mode : Mode) (c : Char) : Option (List Token × Mode) :=
  match mode with
  | .between | .bare _ => some (mode.outside c)
  | .quoted seen =>
    if c = '"' then some ([.text (String.ofList (ofCodes seen.reverse))], .between)
    else if c = '\\' then some ([], .escaped seen)
    else if c.toNat < 0x20 then none
    else some ([], .quoted (c.toNat :: seen))
  | .escaped seen =>
    if c = 'u' then some ([], .numeric seen 0 4)
    else (shortEscape? c).map fun code ↦ ([], .quoted (code :: seen))
  | .numeric seen code due =>
    if isHexDigit c then
      let code := 16 * code + hexValue c
      some ([], if due ≤ 1 then .quoted (code :: seen) else .numeric seen code (due - 1))
    else none

/-- The tokens of the text that follows a mode. -/
def tokensFrom (mode : Mode) : List Char → Option (List Token)
  | [] =>
    match mode with
    | .between | .bare _ => some mode.pending
    | _ => none
  | c :: rest => do
    let (ended, next) ← mode.step c
    let others ← tokensFrom next rest
    return ended ++ others

/-- The tokens of a text. -/
def tokens (s : List Char) : Option (List Token) := tokensFrom .between s

end CaptureFilter.Json
