import CaptureFilter.CommandLine.Argument
import CaptureFilter.CommandLine.Entry
import CaptureFilter.Interface

/-!
# Choices

The arguments of a command line leave a record of what is to be compiled and how it is to be shown.
Of a choice made twice the last counts, but all entries do. Asking for help ends the reading there
and then; arguments that belong to no option are reported last.
Spec guidance: `SPEC_FULL.md` §D (`build_parser`).
-/

namespace CaptureFilter.CommandLine

/-- What a command line asks for. -/
structure Choices where
  /-- The entries, in order. -/
  entries : List String := []
  /-- The preset that stands before them. -/
  preset : Option Preset := none
  /-- The interface to capture on. -/
  interface : Option String := none
  /-- Whether the interface is said to carry no tags. -/
  noVlan : Bool := false
  /-- Whether the answer is shown as JSON. -/
  json : Bool := false
  /-- Whether more messages are asked for. -/
  verbose : Bool := false
  deriving DecidableEq, Repr

namespace Choices

/-- The choices after a flag is raised. -/
def withFlag (choices : Choices) : Parameter → Choices
  | .noVlan => { choices with noVlan := true }
  | .json => { choices with json := true }
  | .verbose => { choices with verbose := true }
  | _ => choices

/-- The choices after an option is given no value: what was chosen before is taken back, while
entries stay. -/
def withoutValue (choices : Choices) : Parameter → Choices
  | .preset => { choices with preset := none }
  | .interface => { choices with interface := none }
  | _ => choices

/-- The choices after an option is given a value. Two dashes are no value. -/
def withValue (choices : Choices) (p : Parameter) (value : String) : Except UsageError Choices :=
  if value = "--" then .ok (choices.withoutValue p)
  else
    match p with
    | .attribute => .ok { choices with entries := choices.entries ++ [value] }
    | .interface => .ok { choices with interface := some value }
    | .preset =>
      match preset? value with
      | some preset => .ok { choices with preset := some preset }
      | none => .error (.noSuchPreset value)
    | _ => .ok choices

end Choices

/-- What a command line commands. -/
inductive Command where
  /-- To show the options. -/
  | help
  /-- To compile what is chosen. -/
  | compile (choices : Choices)
  deriving DecidableEq, Repr

/-- The choices after a bundle's flags, or nothing if one of them asks for help. -/
def Bundle.raise? (b : Bundle) (choices : Choices) : Option Choices :=
  if .help ∈ b.flags then none else some (b.flags.foldl Choices.withFlag choices)

/-- The command that arguments make, after choices made and texts passed over. -/
def gather (choices : Choices) (strays : List String) :
    List Argument → Except UsageError Command
  | [] => if strays.isEmpty then .ok (.compile choices) else .error (.unrecognized strays)
  | .value text :: rest => gather choices (strays ++ [text]) rest
  | .separator :: rest => gather choices (strays ++ ["--"]) rest
  | .unknown text :: rest => gather choices (strays ++ [text]) rest
  | .option p byLetter attached :: rest => do
    let bundle ← Bundle.ofOption p byLetter attached
    match bundle.remainder, rest with
    | .due q, .value text :: rest =>
      match bundle.raise? choices with
      | none => return .help
      | some choices => gather (← choices.withValue q text) strays rest
    | .due q, _ => throw (.missingValue q)
    | .given q text, rest =>
      match bundle.raise? choices with
      | none => return .help
      | some choices => gather (← choices.withValue q text) strays rest
    | .none, rest =>
      match bundle.raise? choices with
      | none => return .help
      | some choices => gather choices strays rest

/-- The command of a command line. -/
def Command.ofArguments (all : List String) : Except UsageError Command := do
  gather {} [] (← arguments all)

end CaptureFilter.CommandLine
