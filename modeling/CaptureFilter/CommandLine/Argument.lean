import CaptureFilter.CommandLine.Parameter
import CaptureFilter.Text.Cut
import CaptureFilter.Text.Numeral

/-!
# Arguments

Each argument is a value or names an option. Options are spelled out, abbreviated, or bundled: a
letter may be followed by the value of its option, all of it, or by further letters. An equals sign
is passed over behind the first letter only. Behind two dashes that stand alone there are only
values.
Spec guidance: `SPEC_FULL.md` §D (`build_parser`).
-/

namespace CaptureFilter.CommandLine

open Text

/-- What an argument is taken for. -/
inductive Argument where
  /-- A value. -/
  | value (text : String)
  /-- Two dashes that stand alone. -/
  | separator
  /-- An option, by its letter or its long spelling, and the text attached to it. -/
  | option (p : Parameter) (byLetter : Bool) (attached : Option (List Char))
  /-- Something like an option that is none. -/
  | unknown (text : String)
  deriving DecidableEq, Repr

/-- The option that a text spells out, and whether it does so by its letter. -/
def spelled? (s : List Char) : Option (Parameter × Bool) :=
  match s with
  | ['-', c] => (Parameter.ofLetter? c).map (·, true)
  | _ => (Parameter.all.find? (·.long.toList = s)).map (·, false)

/-- Whether a text is a row of decimal digits of any script. -/
def areDigits (s : List Char) : Bool := s.all fun c ↦ (Numeral.digit? c).isSome

/-- Whether a text that begins with a dash is a negative number, perhaps with a line feed at its
end. -/
def isNegative (s : List Char) : Bool :=
  match cut '.' (dropFinalLineFeed s).tail with
  | (whole, none) => !whole.isEmpty && areDigits whole
  | (whole, some part) => areDigits whole && !part.isEmpty && areDigits part

/-- What an argument with a dash in front is taken for if it names no option: negative numbers and
texts with spaces in them are values. -/
def Argument.ofOther (s : List Char) : Argument :=
  if isNegative s || s.contains ' ' then .value (String.ofList s) else .unknown (String.ofList s)

/-- What an argument that begins with a dash and spells out no option is taken for. -/
def Argument.ofInexact (s : List Char) : Except UsageError Argument :=
  match s with
  | '-' :: '-' :: _ =>
    let (name, assigned) := cut '=' s
    match Parameter.abbreviated name with
    | [] => .ok (ofOther s)
    | [p] => .ok (.option p false assigned)
    | candidates => .error (.ambiguous (String.ofList s) candidates)
  | '-' :: c :: rest =>
    match Parameter.ofLetter? c with
    | some p => .ok (.option p true (some rest))
    | none => .ok (ofOther s)
  | _ => .ok (ofOther s)

/-- What an argument before the separator is taken for. -/
def Argument.of (s : List Char) : Except UsageError Argument :=
  match s with
  | '-' :: _ :: _ =>
    match spelled? s, cut '=' s with
    | some (p, byLetter), _ => .ok (.option p byLetter none)
    | none, (_, none) => ofInexact s
    | none, (name, some text) =>
      match spelled? name with
      | some (p, byLetter) => .ok (.option p byLetter (some text))
      | none => ofInexact s
  | _ => .ok (.value (String.ofList s))

/-- What the arguments of a command line are taken for. -/
def arguments : List String → Except UsageError (List Argument)
  | [] => .ok []
  | s :: rest =>
    if s = "--" then .ok (.separator :: rest.map .value)
    else do return (← Argument.of s.toList) :: (← arguments rest)

/-- What is left to be done behind the flags of a bundle. -/
inductive Remainder where
  /-- Nothing. -/
  | none
  /-- An option is given a value. -/
  | given (p : Parameter) (value : String)
  /-- An option is due to be given the next argument. -/
  | due (p : Parameter)
  deriving DecidableEq, Repr

/-- The flags that an argument raises, and what is left to be done. -/
structure Bundle where
  /-- The flags, in order. -/
  flags : List Parameter
  /-- What is left. -/
  remainder : Remainder
  deriving DecidableEq, Repr

namespace Bundle

/-- A bundle with a flag in front. -/
def push (p : Parameter) (b : Bundle) : Bundle := { b with flags := p :: b.flags }

/-- The bundle of an option to which nothing is attached. -/
def ofBare (p : Parameter) : Bundle := if p.takesValue then ⟨[], .due p⟩ else ⟨[p], .none⟩

/-- The bundle of an option named by its letter with a text attached, which is its value if it takes
one, and otherwise begins with the letter of the next option. -/
def ofLetter (p : Parameter) (text : List Char) : Except UsageError Bundle :=
  if p.takesValue then .ok ⟨[], .given p (String.ofList text)⟩
  else
    match text with
    | [] => .error (.unwantedValue p "")
    | c :: rest =>
      match Parameter.ofLetter? c, rest with
      | none, _ => .error (.unwantedValue p (String.ofList (c :: rest)))
      | some q, [] => .ok ((ofBare q).push p)
      | some q, rest => (ofLetter q rest).map (push p)

/-- The bundle of an option as it is written. -/
def ofOption (p : Parameter) (byLetter : Bool) : Option (List Char) → Except UsageError Bundle
  | none => .ok (ofBare p)
  | some text =>
    if byLetter then ofLetter p text
    else if p.takesValue then .ok ⟨[], .given p (String.ofList text)⟩
    else .error (.unwantedValue p (String.ofList text))

end Bundle

end CaptureFilter.CommandLine
