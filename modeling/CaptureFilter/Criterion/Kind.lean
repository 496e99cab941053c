import CaptureFilter.Text.Blank
import CaptureFilter.Text.Case

/-!
# What criteria speak of

The kinds of criteria, the operators that combine their values, and the sections they belong to,
with the names they go by. Names are read without regard to case and to blanks around them.
Spec guidance: `SPEC_FULL.md` §3 (`AttributeType`, `Match`, `Section`).
-/

namespace CaptureFilter

open Text

/-- A field of packets that a criterion compares. Supports `REAL_TYPES`. -/
inductive PacketField where
  /-- The number of a VLAN tag. -/
  | vlan
  /-- The ethertype of a frame. -/
  | ethertype
  /-- The protocol above IP. -/
  | protocol
  /-- An IP address or subnet. -/
  | address
  /-- A hardware address or its beginning. -/
  | mac
  /-- A port. -/
  | port
  deriving DecidableEq, Repr

/-- A kind of criterion. Supports `AttributeType`. -/
inductive Kind where
  /-- A comparison of a packet field. -/
  | packet (field : PacketField)
  /-- A preset in place of all other criteria. -/
  | preset
  /-- A decision on a whole section. -/
  | disposition
  deriving DecidableEq, Repr

namespace Kind

/-- All kinds. -/
def all : List Kind :=
  [.packet .vlan, .packet .ethertype, .packet .protocol, .packet .address, .packet .mac,
    .packet .port, .preset, .disposition]

/-- The name of a kind. -/
def name : Kind → String
  | .packet .vlan => "vlan"
  | .packet .ethertype => "ethertype"
  | .packet .protocol => "protocol"
  | .packet .address => "ipaddress"
  | .packet .mac => "macaddress"
  | .packet .port => "port"
  | .preset => "attribute_preset"
  | .disposition => "section_match"

/-- Every kind is listed. -/
theorem mem_all (k : Kind) : k ∈ all := by
  rcases k with (f | _ | _)
  · cases f <;> decide
  all_goals decide

/-- Different kinds have different names. -/
theorem name_injective {j k : Kind} (h : j.name = k.name) : j = k := by
  have key : ∀ a ∈ all, ∀ b ∈ all, a.name = b.name → a = b := by decide
  exact key j (mem_all j) k (mem_all k) h

/-- The kind that a text names. Supports `_parse_type`. -/
def ofText? (s : String) : Option Kind := all.find? fun k ↦ k.name = lower (trim s)

/-- A kind is found under its name. -/
theorem ofText?_name (k : Kind) : ofText? k.name = some k := by
  have key : ∀ k ∈ all, ofText? k.name = some k := by decide
  exact key k (mem_all k)

end Kind

/-- An operator. On a field it combines the values given, on a section it decides, on a preset it
names the preset. Supports `Match`. -/
inductive Operator where
  /-- Leaves a section out. -/
  | none
  /-- All values, or a section together with its neighbours. -/
  | allOf
  /-- Any value, or a section as an alternative. -/
  | anyOf
  /-- No value. -/
  | noneOf
  /-- All values, as an alternative to what came before. -/
  | orAllOf
  /-- Any value, as an alternative to what came before. -/
  | orAnyOf
  /-- No value, as an alternative to what came before. -/
  | orNoneOf
  /-- The preset of all packets. -/
  | any
  /-- The preset of packets without a tag. -/
  | untagged
  /-- The preset of packets with a tag. -/
  | tagged
  /-- A name kept for presets yet to come. -/
  | custom
  deriving DecidableEq, Repr

namespace Operator

/-- All operators. -/
def all : List Operator :=
  [.none, .allOf, .anyOf, .noneOf, .orAllOf, .orAnyOf, .orNoneOf, .any, .untagged, .tagged, .custom]

/-- The name of an operator. -/
def name : Operator → String
  | .none => "none"
  | .allOf => "all_of"
  | .anyOf => "any_of"
  | .noneOf => "none_of"
  | .orAllOf => "or_all_of"
  | .orAnyOf => "or_any_of"
  | .orNoneOf => "or_none_of"
  | .any => "any"
  | .untagged => "untagged"
  | .tagged => "tagged"
  | .custom => "custom"

/-- Every operator is listed. -/
theorem mem_all (op : Operator) : op ∈ all := by cases op <;> decide

/-- Different operators have different names. -/
theorem name_injective {a b : Operator} (h : a.name = b.name) : a = b := by
  have key : ∀ a ∈ all, ∀ b ∈ all, a.name = b.name → a = b := by decide
  exact key a (mem_all a) b (mem_all b) h

/-- The operator that a text names. Supports `_parse_match`. -/
def ofText? (s : String) : Option Operator := all.find? fun op ↦ op.name = lower (trim s)

/-- An operator is found under its name. -/
theorem ofText?_name (op : Operator) : ofText? op.name = some op := by
  have key : ∀ op ∈ all, ofText? op.name = some op := by decide
  exact key op (mem_all op)

/-- Whether an operator combines the values of a field. Supports `TYPE_MATCHES`. -/
def onField : Operator → Bool
  | .allOf | .anyOf | .noneOf | .orAllOf | .orAnyOf | .orNoneOf => true
  | _ => false

/-- Whether an operator decides on a section. Supports `SECTION_MATCHES`. -/
def onSection : Operator → Bool
  | .none | .allOf | .anyOf => true
  | _ => false

/-- Whether an operator names a preset. Supports `PRESET_MATCHES`. -/
def onPreset : Operator → Bool
  | .any | .untagged | .tagged => true
  | _ => false

/-- Whether an operator leaves packets out. Supports `EXCLUDING_MATCHES`. -/
def excludes : Operator → Bool
  | .none | .noneOf | .orNoneOf => true
  | _ => false

/-- Whether what an operator asks for must hold besides what came before. Supports
`OPTIONAL_MATCHES`. -/
def required : Operator → Bool
  | .orAllOf | .orAnyOf | .orNoneOf => false
  | _ => true

/-- Whether an operator asks for all values at once. Supports `CONJUNCTIVE_MATCHES`. -/
def conjoins : Operator → Bool
  | .allOf | .orAllOf => true
  | _ => false

end Operator

/-- A section: the packets with a given number of VLAN tags, or the section of presets. Supports
`Section`. -/
inductive Section where
  /-- Packets with this many tags. -/
  | depth (tags : Fin 10)
  /-- The section that presets belong to. -/
  | preset
  deriving DecidableEq, Repr

namespace Section

/-- Whether a section holds the packets without a tag. -/
def isUntagged : Section → Bool
  | .depth tags => tags.val == 0
  | .preset => false

/-- The section of a number, if there is one. Supports `_parse_section`. -/
def ofInt? (n : Int) : Option Section :=
  if h : 0 ≤ n ∧ n < 10 then some (.depth ⟨n.toNat, by omega⟩) else none

/-- The section that a number of tags has. -/
theorem ofInt?_eq_some_depth (tags : Fin 10) : ofInt? (tags.val : Int) = some (.depth tags) := by
  have h : (0 : Int) ≤ tags.val ∧ (tags.val : Int) < 10 := by omega
  simp [ofInt?, h]

end Section

end CaptureFilter
