import CaptureFilter.Text.Quoted
import CaptureFilter.Criterion.Kind

/-!
# Options

The options of the command line, their spellings, and what can be wrong with their use.
Spec guidance: `SPEC_FULL.md` §D (`build_parser`).
-/

namespace CaptureFilter.CommandLine

open Text

/-- An option of the command line. Supports `build_parser`. -/
inductive Parameter where
  /-- Asks for the list of options. -/
  | help
  /-- Gives an entry. -/
  | attribute
  /-- Gives a preset in place of entries. -/
  | preset
  /-- Gives the interface to capture on. -/
  | interface
  /-- Says that the interface carries no tags. -/
  | noVlan
  /-- Asks for the answer as JSON. -/
  | json
  /-- Asks for more messages. -/
  | verbose
  deriving DecidableEq, Repr

namespace Parameter

/-- All options. -/
def all : List Parameter := [.help, .attribute, .preset, .interface, .noVlan, .json, .verbose]

/-- The letter of an option that has a short spelling. -/
def letter? : Parameter → Option Char
  | .help => some 'h'
  | .attribute => some 'a'
  | .preset => some 'p'
  | .interface => some 'i'
  | .verbose => some 'v'
  | .noVlan | .json => none

/-- The long spelling of an option. -/
def long : Parameter → String
  | .help => "--help"
  | .attribute => "--attribute"
  | .preset => "--preset"
  | .interface => "--interface"
  | .noVlan => "--no-vlan"
  | .json => "--json"
  | .verbose => "--verbose"

/-- Whether an option needs a value. -/
def takesValue : Parameter → Bool
  | .attribute | .preset | .interface => true
  | _ => false

/-- The name of an option in messages: its spellings. -/
def name (p : Parameter) : String :=
  match p.letter? with
  | some c => "-" ++ String.singleton c ++ "/" ++ p.long
  | none => p.long

/-- The option of a letter. -/
def ofLetter? (c : Char) : Option Parameter := all.find? fun p ↦ p.letter? = some c

/-- The options whose long spelling begins with a text. -/
def abbreviated (s : List Char) : List Parameter := all.filter fun p ↦ s.isPrefixOf p.long.toList

/-- Every option is listed. -/
theorem mem_all (p : Parameter) : p ∈ all := by cases p <;> decide

end Parameter

/-- The presets that can be chosen. -/
abbrev Preset := { op : Operator // op.onPreset = true }

/-- The names of the presets that can be chosen. -/
def presetNames : List String := (Operator.all.filter Operator.onPreset).map Operator.name

/-- The preset of a name, which is compared as it stands. -/
def preset? (name : String) : Option Preset :=
  match Operator.all.find? (·.name = name) with
  | none => none
  | some op => if h : op.onPreset = true then some ⟨op, h⟩ else none

/-- What is wrong with the use of options. -/
inductive UsageError where
  /-- An abbreviation stands for several options. -/
  | ambiguous (argument : String) (candidates : List Parameter)
  /-- An option that takes no value is given one. -/
  | unwantedValue (p : Parameter) (value : String)
  /-- An option that takes a value is given none. -/
  | missingValue (p : Parameter)
  /-- There is no such preset. -/
  | noSuchPreset (value : String)
  /-- Some arguments belong to no option. -/
  | unrecognized (arguments : List String)
  deriving DecidableEq, Repr

/-- The wording of a usage error. -/
def UsageError.message : UsageError → String
  | .ambiguous argument candidates =>
    "ambiguous option: " ++ argument ++ " could match " ++
      ", ".intercalate (candidates.map Parameter.long)
  | .unwantedValue p value =>
    "argument " ++ p.name ++ ": ignored explicit argument " ++ quoted value
  | .missingValue p => "argument " ++ p.name ++ ": expected one argument"
  | .noSuchPreset value =>
    "argument " ++ Parameter.preset.name ++ ": invalid choice: " ++ quoted value ++
      " (choose from " ++ ", ".intercalate (presetNames.map quoted) ++ ")"
  | .unrecognized arguments => "unrecognized arguments: " ++ " ".intercalate arguments

end CaptureFilter.CommandLine
