import CaptureFilter.Criterion.Kind
import CaptureFilter.Json.Value
import CaptureFilter.Text.Numeral

/-!
# Errors

What can be wrong with a criterion, with a token of its input, and with a collection of criteria,
each with its wording. Apart from these stand numerals too long to be read or written, which no
message of a criterion speaks of.
Spec guidance: `SPEC_FULL.md` §7 (`InvalidAttribute`, `InvalidInput`, `CompileError`, `to_dict`).
-/

namespace CaptureFilter

open Text

/-- A part of a criterion. -/
inductive Part where
  /-- The kind. -/
  | kind
  /-- The section. -/
  | section
  /-- The operator. -/
  | operator
  /-- The input. -/
  | input
  deriving DecidableEq, Repr

/-- The name of a part. -/
def Part.name : Part → String
  | .kind => "type"
  | .section => "section"
  | .operator => "operator"
  | .input => "input"

/-- The value of a section in answers. -/
def Section.value : Section → Json.Value
  | .depth tags => .int tags.val
  | .preset => .text "preset"

/-- The name of a section. -/
def Section.name : Section → String
  | .depth tags => decimal tags.val
  | .preset => "preset"

/-- What is wrong with a criterion. Supports `InvalidAttribute`. -/
inductive Fault where
  /-- A part has no such value. -/
  | unreadable (part : Part) (value : Json.Shown)
  /-- Another kind than a preset stands in the preset section. -/
  | notAPreset (kind : Kind)
  /-- A preset stands in another section. -/
  | presetElsewhere (place : Section)
  /-- No preset has this name. -/
  | noSuchPreset (op : Operator)
  /-- No section is decided on like this. -/
  | noSuchDisposition (op : Operator)
  /-- Untagged packets would have to be tagged as well. -/
  | allOfUntagged
  /-- The operator does not combine values of this kind. -/
  | notForKind (op : Operator) (kind : Kind)
  /-- The input has been set before. -/
  | inputSet (raw : Option String)
  deriving Repr

namespace Fault

/-- The part that is at fault. -/
def part : Fault → Part
  | .unreadable part _ => part
  | .notAPreset _ => .kind
  | .presetElsewhere _ => .section
  | .noSuchPreset _ | .noSuchDisposition _ | .allOfUntagged | .notForKind _ _ => .operator
  | .inputSet _ => .input

/-- The value that is at fault, as text. -/
def value : Fault → String
  | .unreadable _ value => value.plain
  | .notAPreset kind => kind.name
  | .presetElsewhere place => place.name
  | .noSuchPreset op | .noSuchDisposition op | .notForKind op _ => op.name
  | .allOfUntagged => Operator.allOf.name
  | .inputSet none => "None"
  | .inputSet (some raw) => raw

/-- The wording of a fault. -/
def message : Fault → String
  | .unreadable part value => "Invalid attribute " ++ part.name ++ ": " ++ value.text
  | .notAPreset _ => "Only preset attributes belong to the preset section"
  | .presetElsewhere _ => "Preset attributes must use the preset section"
  | .noSuchPreset op => "Invalid preset '" ++ op.name ++ "'"
  | .noSuchDisposition op => "Invalid section match '" ++ op.name ++ "'"
  | .allOfUntagged => "Section 0 (untagged) cannot use all_of"
  | .notForKind op kind => "Invalid operator '" ++ op.name ++ "' for " ++ kind.name
  | .inputSet _ => "Attribute input is already set; build a new attribute"

end Fault

/-- What is wrong with a token. Supports `InvalidInput`. -/
inductive TokenFault where
  /-- It is no tag number. -/
  | vlanTag
  /-- It is a tag number where packets have no tag. -/
  | vlanTagUntagged
  /-- It is no ethertype. -/
  | ethertype
  /-- It is the ethertype of a tag. -/
  | vlanEthertype
  /-- It names no protocol. -/
  | protocol
  /-- It is no protocol number. -/
  | protocolNumber
  /-- It is neither an address nor a subnet. -/
  | address
  /-- It is no hardware address. -/
  | mac
  /-- It is a beginning of a hardware address that cannot be compared. -/
  | macLength
  /-- It is no port number. -/
  | port
  deriving DecidableEq, Repr

namespace TokenFault

/-- The packet field whose token is at fault. -/
def field : TokenFault → PacketField
  | .vlanTag | .vlanTagUntagged => .vlan
  | .ethertype | .vlanEthertype => .ethertype
  | .protocol | .protocolNumber => .protocol
  | .address => .address
  | .mac | .macLength => .mac
  | .port => .port

/-- The wording of a fault of a token. -/
def message (token : String) : TokenFault → String
  | .vlanTag => "Invalid VLAN tag '" ++ token ++ "': expected 0-4095"
  | .vlanTagUntagged =>
    "VLAN tag '" ++ token ++
      "' needs a tagged section (1-9); section 0 matches untagged traffic"
  | .ethertype => "Invalid ethertype: '" ++ token ++ "'"
  | .vlanEthertype =>
    "Ethertype '" ++ token ++
      "' is a VLAN tag; match tagged traffic with a VLAN section instead"
  | .protocol => "Invalid protocol: '" ++ token ++ "'"
  | .protocolNumber => "Unknown protocol '" ++ token ++ "': numbers range 0-255"
  | .address => "Invalid IP address or subnet: '" ++ token ++ "'"
  | .mac => "Invalid MAC address: '" ++ token ++ "'"
  | .macLength =>
    "Invalid MAC address '" ++ token ++ "': partial addresses need 1, 2 or 4 octets"
  | .port => "Invalid port: '" ++ token ++ "'"

end TokenFault

/-- Why a collection of criteria has no expression. Supports `CompileError`. -/
inductive CompileFault where
  /-- No preset has this name. -/
  | unsupportedPreset (op : Operator)
  /-- A preset stands among the criteria of sections. -/
  | strayPreset (criterion : String)
  /-- Tagged packets are asked for where there are none. -/
  | taggedPreset
  /-- Untagged packets are left out where there are no others. -/
  | untaggedExclusion
  /-- No packet is left. -/
  | excludesAll
  deriving DecidableEq, Repr

/-- The wording of a fault of a collection. -/
def CompileFault.message : CompileFault → String
  | .unsupportedPreset op => "Unsupported preset '" ++ op.name ++ "'"
  | .strayPreset criterion => "Preset attribute outside the preset section: " ++ criterion
  | .taggedPreset => "The tagged preset needs an interface that carries VLAN tags"
  | .untaggedExclusion => "Excluding untagged traffic needs an interface that carries VLAN tags"
  | .excludesAll => "The section settings exclude every packet"

/-- An error that a message explains to the one who set up the criteria. Supports `FilterError`. -/
inductive FilterError where
  /-- A criterion is at fault. -/
  | criterion (fault : Fault)
  /-- A token is at fault. -/
  | token (fault : TokenFault) (token : String)
  /-- A collection of criteria is at fault. -/
  | compile (fault : CompileFault)
  deriving Repr

namespace FilterError

/-- The wording of an error. -/
def message : FilterError → String
  | .criterion fault => fault.message
  | .token fault word => fault.message word
  | .compile fault => fault.message

/-- The name of an error's sort. Supports `error_type`. -/
def sort : FilterError → String
  | .criterion _ => "invalid_attribute"
  | .token fault _ =>
    match fault.field with
    | .vlan => "invalid_vlan_tag"
    | .ethertype => "invalid_ethertype"
    | .protocol => "unknown_protocol"
    | .address => "invalid_address"
    | .mac => "invalid_mac_address"
    | .port => "invalid_port"
  | .compile (.unsupportedPreset _) | .compile (.strayPreset _) => "compile_error"
  | .compile .taggedPreset | .compile .untaggedExclusion => "unsupported_vlan_filter"
  | .compile .excludesAll => "expression_excludes_all_packets"

/-- The full account of an error. Supports `to_dict`. -/
def account (e : FilterError) : Json.Value :=
  let culprit : List (String × Json.Value) :=
    match e with
    | .criterion fault => [("field", .text fault.part.name), ("value", .text fault.value)]
    | .token _ word => [("token", .text word)]
    | .compile _ => []
  .record ([("error_type", .text e.sort), ("message", .text e.message)] ++ culprit)

end FilterError

/-- Why a step failed. -/
inductive Failure where
  /-- The criteria are at fault. -/
  | filter (e : FilterError)
  /-- Digits could not be read as a number, or a number not be written in digits. -/
  | numeral (e : Numeral.Error)
  deriving Repr

/-- The wording of a failure. -/
def Failure.message : Failure → String
  | .filter e => e.message
  | .numeral e => e.message

end CaptureFilter
