import CaptureFilter.CommandLine.Box
import CaptureFilter.CommandLine.Parameter
import CaptureFilter.Program

/-!
# The list of options

What the program shows when it is asked for its options, and the line that stands above the report
of a usage error.
Spec guidance: `SPEC_FULL.md` §D (`build_parser`).
-/

namespace CaptureFilter.CommandLine

namespace Parameter

/-- What the value of an option is called. -/
def valueName? : Parameter → Option String
  | .attribute => some "SECTION:TYPE:MATCH[:INPUT]"
  | .preset => some ("\x7b" ++ ",".intercalate presetNames ++ "\x7d")
  | .interface => some "INTERFACE"
  | _ => none

/-- What an option is for. -/
def purpose : Parameter → String
  | .help => "show this help message and exit"
  | .attribute => "Capture attribute (repeatable, order matters)"
  | .preset => "Use a preset instead of the attributes"
  | .interface => "Capture interface (pseudo interfaces disable VLAN sections)"
  | .noVlan => "Treat the interface as unable to carry VLAN tags"
  | .json => "Print the result as JSON only"
  | .verbose => "Enable debug logging"

/-- The shortest spelling of an option. -/
def short (p : Parameter) : String :=
  match p.letter? with
  | some c => "-" ++ String.singleton c
  | none => p.long

/-- A spelling of an option with the name of its value. -/
def withValueName (p : Parameter) (spelling : String) : String :=
  match p.valueName? with
  | some name => spelling ++ " " ++ name
  | none => spelling

/-- The spellings of an option. -/
def spellings (p : Parameter) : List String :=
  if p.letter?.isSome then [p.short, p.long] else [p.long]

end Parameter

/-- How the program is called. -/
def usage : List Char :=
  ("usage: " ++ " ".intercalate
    (Program.name :: Parameter.all.map fun p ↦ "[" ++ p.withValueName p.short ++ "]")).toList

/-- The lines for an option. -/
def helpEntry (p : Parameter) : List (List Char) :=
  [("  " ++ ", ".intercalate (p.spellings.map p.withValueName)).toList,
    bar ' ' 24 ++ p.purpose.toList]

/-- The list of options. -/
def help : List (List Char) :=
  [usage, [],
    (Program.name ++ " - Compile capture criteria into a pcap-filter expression").toList, [],
    "options:".toList] ++ Parameter.all.flatMap helpEntry

/-- The report of a usage error. -/
def UsageError.report (e : UsageError) : List (List Char) :=
  [usage, (Program.name ++ ": error: " ++ e.message).toList]

end CaptureFilter.CommandLine
