import CaptureFilter.Criterion.Error
import CaptureFilter.Net.Link
import CaptureFilter.Net.Subnet
import CaptureFilter.Protocol.Source

/-!
# Fragments

Each token of a criterion's input is turned into a fragment, one comparison of packets with the
value that the token denotes, or refused. A fragment's text is a comparison in the filter language,
in parentheses if it is made of several.
Spec guidance: `SPEC_FULL.md` §4.1 (`_compile_vlan`, `_compile_ethertype`, `_compile_protocol`,
`_compile_ipaddress`, `_compile_macaddress`, `_compile_port`).
-/

namespace CaptureFilter

open Text Net

/-- An ethertype with a name of its own. -/
inductive NamedEthertype where
  /-- IP version 4. -/
  | ipv4
  /-- IP version 6. -/
  | ipv6
  /-- Address resolution. -/
  | arp
  deriving DecidableEq, Repr

/-- A comparison of packets. -/
inductive Fragment where
  /-- The tag at a depth has a number. -/
  | tag (depth : Fin 10) (n : Nat)
  /-- The frame has an ethertype with a name. -/
  | named (known : NamedEthertype)
  /-- The frame has an ethertype. -/
  | ethertype (n : Nat)
  /-- The packet asks for an echo or is one. -/
  | ping
  /-- The packet is encrypted: in a protocol of its own, or in a datagram. -/
  | ipsec
  /-- The packet has a protocol number. -/
  | protocol (n : Int)
  /-- An end of the packet's way has an address. -/
  | host (address : String)
  /-- An end of the packet's way lies in a network. -/
  | network (subnet : String)
  /-- A hardware address of the frame has these octets. -/
  | hardware (octets : List UInt8)
  /-- A hardware address of the frame begins with these octets. -/
  | hardwareStart (octets : List UInt8)
  /-- A port of the packet has a number. -/
  | port (n : Nat)
  deriving DecidableEq, Repr

/-- The word for a named ethertype. -/
def NamedEthertype.word : NamedEthertype → String
  | .ipv4 => "ip"
  | .ipv6 => "ip6"
  | .arp => "arp"

namespace Fragment

/-- The offset in a frame of the number of the tag at a given depth. Supports `vlan_tag_offset`. -/
def tagOffset (depth : Int) : Int := 10 + 4 * depth

/-- The comparisons that a ping is one of. -/
def pingParts : List String :=
  ["icmp[icmptype] = icmp-echo", "icmp[icmptype] = icmp-echoreply",
    "icmp6[icmp6type] = icmp6-echo", "icmp6[icmp6type] = icmp6-echoreply"]

/-- The places in a frame where its two hardware addresses begin. Supports `MAC_OFFSETS`. -/
def hardwareOffsets : List Nat := [0, 6]

/-- An octet in two hexadecimal digits. -/
def octetText (octet : UInt8) : String := String.ofList (hexDigits 2 octet.toNat)

/-- The comparison of octets at an offset. -/
def octetsAt (octets : List UInt8) (offset : Nat) : String :=
  "ether[" ++ decimal offset ++ ":" ++ decimal octets.length ++ "] = 0x" ++
    "".intercalate (octets.map octetText)

/-- The text of a fragment. Encrypted datagrams are those to a port of key exchange whose first four
bytes are not all zero. -/
def text : Fragment → String
  | .tag depth n =>
    "ether[" ++ signedDecimal (tagOffset depth.val) ++ ":2] & 0x0fff = " ++ decimal n
  | .named known => known.word
  | .ethertype n => "ether proto 0x" ++ String.ofList (hexDigits 4 n)
  | .ping => "(" ++ " or ".intercalate pingParts ++ ")"
  | .ipsec => "(esp or (udp port 4500 and udp[8:4] != 0))"
  | .protocol n => "proto " ++ signedDecimal n
  | .host address => "host " ++ address
  | .network subnet => "net " ++ subnet
  | .hardware octets => "ether host " ++ ":".intercalate (octets.map octetText)
  | .hardwareStart octets =>
    "(" ++ " or ".intercalate (hardwareOffsets.map (octetsAt octets)) ++ ")"
  | .port n => "port " ++ decimal n

/-- A token refused. -/
def refuse {α : Type} (fault : TokenFault) (token : String) : Except Failure α :=
  .error (.filter (.token fault token))

/-- The number that a token of ASCII digits denotes. -/
def number (token : String) : Except Failure Nat :=
  (Numeral.read token.toList).mapError .numeral

/-- The greatest number of a tag. Supports `MAX_VLAN_TAG`. -/
def maxTag : Nat := 4095

/-- The fragment of a tag number. Supports `_compile_vlan`. -/
def ofTag (depth : Fin 10) (token : String) : Except Failure Fragment :=
  if isNumber token.toList then do
    let n ← number token
    if maxTag < n then refuse .vlanTag token
    else if depth.val = 0 then refuse .vlanTagUntagged token
    else return .tag depth n
  else refuse .vlanTag token

/-- The ethertype that a name in lower case stands for. Supports `ETHERTYPE_ALIASES`. -/
def namedEthertype? : String → Option NamedEthertype
  | "ipv4" => some .ipv4
  | "ipv6" => some .ipv6
  | "arp" => some .arp
  | _ => none

/-- The ethertypes of VLAN tags. Supports `VLAN_ETHERTYPES`. -/
def tagEthertypes : List Nat := [0x8100, 0x88A8]

/-- A text in lower case with `0x` in front, put there where it is missing. -/
def withMarker (token : String) : String :=
  if ['0', 'x'].isPrefixOf (lower token).toList then lower token else "0x" ++ lower token

/-- The fragment of an ethertype. Supports `_compile_ethertype`. -/
def ofEthertype (token : String) : Except Failure Fragment :=
  match namedEthertype? (lower token) with
  | some known => return .named known
  | none =>
    let value := withMarker token
    if isEthertype value then
      let n := ofHexDigits (value.toList.drop 2)
      if tagEthertypes.contains n then refuse .vlanEthertype token else return .ethertype n
    else refuse .ethertype token

/-- The protocols that no number describes, in lower case. Supports `PROTOCOL_ALIASES`. -/
def namedProtocol? : String → Option Fragment
  | "ping" => some .ping
  | "ipsec" => some .ipsec
  | _ => none

/-- The greatest protocol number. Supports `MAX_PROTOCOL_NUMBER`. -/
def maxProtocol : Nat := 255

/-- What a protocol token is. -/
inductive ProtocolToken where
  /-- A protocol with a fragment of its own. -/
  | special (fragment : Fragment)
  /-- A number, if its digits can be read. -/
  | numeral (n : Except Failure Nat)
  /-- A name to be looked up. -/
  | name

/-- What a protocol token is. -/
def ProtocolToken.of (token : String) : ProtocolToken :=
  match namedProtocol? (lower token) with
  | some fragment => .special fragment
  | none => if isNumber token.toList then .numeral (number token) else .name

/-- The fragment of the number that a table lists, which must have few enough digits to be
written. -/
def ofListed (n : Int) : Except Failure Fragment :=
  ((Numeral.write n).map fun _ ↦ .protocol n).mapError .numeral

/-- A listed number that can be written has its fragment. -/
theorem ofListed_of_not_unwritable {n : Int} (h : ¬ Numeral.Unwritable n) :
    ofListed n = .ok (.protocol n) := by
  rw [ofListed, Numeral.write_of_not_unwritable h]
  rfl

/-- A listed number that cannot be written has none. -/
theorem ofListed_of_unwritable {n : Int} (h : Numeral.Unwritable n) :
    ofListed n = .error (.numeral .unwritable) := by
  rw [ofListed, Numeral.write_eq_error_iff.mpr ⟨h, rfl⟩]
  rfl

/-- The fragment of a protocol. Supports `_compile_protocol`. -/
def ofProtocol (table : Protocol.Table) (token : String) : Except Failure Fragment :=
  match ProtocolToken.of token with
  | .special fragment => return fragment
  | .numeral n => do
    let n ← n
    if maxProtocol < n then refuse .protocolNumber token else return .protocol n
  | .name =>
    match table.lookup token with
    | some n => ofListed n
    | none => refuse .protocol token

/-- The fragment of an address or subnet. An address is repeated as it was given. Supports
`_compile_ipaddress`. -/
def ofAddress (token : String) : Except Failure Fragment :=
  if isAddress token then return .host token
  else do
    if ← (isSubnet token).mapError .numeral then
      match networkText? token with
      | some subnet => return .network subnet
      | none => refuse .address token
    else refuse .address token

/-- The octets of a hardware address. -/
def octetsOf (token : String) : List UInt8 :=
  (token.toList.splitOn ':').map fun digits ↦ UInt8.ofNat (ofHexDigits digits)

/-- The fragment of a hardware address or its beginning. Supports `_compile_macaddress`. -/
def ofHardware (token : String) : Except Failure Fragment :=
  if isMac true token then
    let octets := octetsOf token
    if octets.length = 6 then return .hardware octets
    else if [1, 2, 4].contains octets.length then return .hardwareStart octets
    else refuse .macLength token
  else refuse .mac token

/-- The fragment of a port. Supports `_compile_port`. -/
def ofPort (token : String) : Except Failure Fragment := do
  if ← (isPort token).mapError .numeral then return .port (← number token)
  else refuse .port token

/-- The fragment of a token of a field, for packets of a given depth. Supports `_COMPILERS`. -/
def ofToken (table : Protocol.Table) (depth : Fin 10) :
    PacketField → String → Except Failure Fragment
  | .vlan => ofTag depth
  | .ethertype => ofEthertype
  | .protocol => ofProtocol table
  | .address => ofAddress
  | .mac => ofHardware
  | .port => ofPort

/-- Whether the tokens of a protocol criterion have a name looked up: one of them is a name, and
none before it is refused. -/
def consults : List String → Bool
  | [] => false
  | token :: rest =>
    match ProtocolToken.of token with
    | .special _ => consults rest
    | .numeral (.ok n) => decide (n ≤ maxProtocol) && consults rest
    | .numeral (.error _) => false
    | .name => true

/-- The text of fragments combined as an operator says: all negated and joined by `and` if it
excludes, joined by `and` if it conjoins, and otherwise by `or`. Supports `_compile_tokens`. -/
def combine (op : Operator) (fragments : List Fragment) : String :=
  if op.excludes then " and ".intercalate (fragments.map ("not " ++ text ·))
  else if op.conjoins then " and ".intercalate (fragments.map text)
  else " or ".intercalate (fragments.map text)

end Fragment

end CaptureFilter
