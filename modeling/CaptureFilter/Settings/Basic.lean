import CaptureFilter.Interface
import CaptureFilter.Json.Reader
import CaptureFilter.Named
import CaptureFilter.Settings.Path
import CaptureFilter.Settings.WholeNumber

/-!
# Settings

Settings are read from environment variables, whose names are those of the settings behind a common
beginning, case aside; of two that differ in case only the later counts. A list that is not JSON
stops the reading before any value is looked at; all other problems are reported together.
Spec guidance: `SPEC_FULL.md` §A (`Settings`).
-/

namespace CaptureFilter

open Text Validation

/-- The least weight of messages that are logged. -/
inductive LogLevel where
  /-- Everything. -/
  | debug
  /-- What is worth knowing. -/
  | info
  /-- What may go wrong. -/
  | warning
  /-- What went wrong. -/
  | error
  /-- What stops the program. -/
  | critical
  deriving DecidableEq, Repr

namespace LogLevel

/-- All levels. -/
def all : List LogLevel := [.debug, .info, .warning, .error, .critical]

/-- The name of a level. -/
def name : LogLevel → String
  | .debug => "DEBUG"
  | .info => "INFO"
  | .warning => "WARNING"
  | .error => "ERROR"
  | .critical => "CRITICAL"

end LogLevel

/-- How messages are logged. -/
inductive LogFormat where
  /-- As JSON objects. -/
  | json
  /-- As lines to be read. -/
  | console
  deriving DecidableEq, Repr

namespace LogFormat

/-- All formats. -/
def all : List LogFormat := [.json, .console]

/-- The name of a format. -/
def name : LogFormat → String
  | .json => "json"
  | .console => "console"

end LogFormat

/-- The settings of the program. Supports `Settings`. -/
structure Settings where
  /-- The address that the service listens at. -/
  host : String := "127.0.0.1"
  /-- The port that the service listens at. -/
  port : Int := 8000
  /-- Whether the service runs for its developers. -/
  debug : Bool := false
  /-- The least weight of messages that are logged. -/
  logLevel : LogLevel := .info
  /-- How messages are logged. -/
  logFormat : LogFormat := .console
  /-- The plain path of the protocol database. -/
  protocolsFile : String := "/etc/protocols"
  /-- The beginnings of the names of interfaces that carry no tags. -/
  untaggedPrefixes : List String := Interface.defaultUntaggedPrefixes
  deriving DecidableEq, Repr

/-- Why settings cannot be read. -/
inductive SettingsError where
  /-- The text of a list is not JSON. -/
  | notJson (setting : String)
  /-- Some values are wrong. -/
  | invalid (problems : List Problem)
  deriving DecidableEq, Repr

/-- The wording of an error of a text that is not JSON. -/
def SettingsError.unreadable (setting : String) : String :=
  "error parsing value for field \"" ++ setting ++ "\" from source \"EnvSettingsSource\""

namespace Settings

/-- What the names of all variables begin with. -/
def variableStart : String := "capfilter_"

/-- The name of the variable of a setting, in lower case. -/
def variableName (setting : String) : String := variableStart ++ setting

/-- The names of all settings. -/
def names : List String :=
  ["host", "port", "debug", "log_level", "log_format", "protocols_file",
    "no_vlan_interface_prefixes"]

/-- An environment: names and values, the later ones first. -/
abbrev Environment := List (String × String)

/-- The environment of variables in order. -/
def Environment.ofVariables (named : List (String × String)) : Environment :=
  (named.map fun (name, value) ↦ (lower name, value)).reverse

/-- The text of a setting. -/
def Environment.text? (env : Environment) (setting : String) : Option String :=
  env.lookup (variableName setting)

/-- A setting with a value to be used where it has no text. -/
def setting {α : Type} (env : Environment) (name : String) (default : α)
    (check : String → Checked α) : Checked α :=
  behind (.field name) ((env.text? name).elim (.ok default) check)

/-- One of several values, by its name. -/
def oneOf {α : Type} (all : List α) (name : α → String) (s : String) : Checked α :=
  (all.find? fun a ↦ name a = s).elim (reject .notListed) .ok

/-- The name of the setting that is a list. -/
def prefixesName : String := "no_vlan_interface_prefixes"

/-- The JSON value of the setting that is a list, if it has a text. Null is as good as no text. -/
def prefixesValue (env : Environment) : Except SettingsError (Option Json.Value) :=
  match env.text? prefixesName with
  | none => .ok none
  | some s =>
    match Json.read? s with
    | none => .error (.notJson prefixesName)
    | some .null => .ok none
    | some v => .ok (some v)

/-- The settings of an environment, given the JSON value of the one that is a list. -/
def check (env : Environment) (prefixes : Option Json.Value) : Checked Settings :=
  let defaults : Settings := {}
  let checked :=
    both (setting env "host" defaults.host .ok) <|
    both (setting env "port" defaults.port WholeNumber.check) <|
    both (setting env "debug" defaults.debug boolOfWord) <|
    both (setting env "log_level" defaults.logLevel (oneOf LogLevel.all LogLevel.name)) <|
    both (setting env "log_format" defaults.logFormat (oneOf LogFormat.all LogFormat.name)) <|
    both (setting env "protocols_file" defaults.protocolsFile fun s ↦ .ok (Path.plain s)) <|
    behind (.field prefixesName) (prefixes.elim (.ok defaults.untaggedPrefixes) (listOf text))
  checked.map fun (host, port, debug, logLevel, logFormat, protocolsFile, untaggedPrefixes) ↦
    { host, port, debug, logLevel, logFormat, protocolsFile, untaggedPrefixes }

/-- The settings of environment variables in order. -/
def ofVariables (named : List (String × String)) : Except SettingsError Settings := do
  let env := Environment.ofVariables named
  (check env (← prefixesValue env)).mapError .invalid

/-- The settings, as a value. -/
def account (s : Settings) : Json.Value :=
  .record [("host", .text s.host), ("port", .int s.port), ("debug", .bool s.debug),
    ("log_level", .text s.logLevel.name), ("log_format", .text s.logFormat.name),
    ("protocols_file", .text s.protocolsFile),
    (prefixesName, .list (s.untaggedPrefixes.map .text))]

end Settings

end CaptureFilter
