import CaptureFilter.Net.IPv6

/-!
# Host addresses

An address of either family. An IPv6 address may name its zone behind a percent sign; the zone is
any text that is not empty and holds neither a percent sign nor a slash.
Spec guidance: `SPEC_FULL.md` §6 (`is_ip_address`).
-/

namespace CaptureFilter.Net

open Text

/-- A host address. -/
inductive Address where
  /-- An IPv4 address. -/
  | v4 (address : IPv4)
  /-- An IPv6 address, in a zone perhaps. -/
  | v6 (address : IPv6) (zone : Option (List Char))
  deriving DecidableEq, Repr

namespace Address

/-- The IPv6 address that a text denotes, with its zone. -/
def parseV6? (s : List Char) : Option Address :=
  match cut '%' s with
  | (front, none) => (IPv6.parse? front).map fun a ↦ .v6 a none
  | (front, some zone) =>
    if zone.isEmpty || zone.contains '%' then none
    else (IPv6.parse? front).map fun a ↦ .v6 a (some zone)

/-- The address that a text denotes. -/
def parse? (s : List Char) : Option Address :=
  if s.contains '/' then none
  else
    match IPv4.parse? s with
    | some a => some (.v4 a)
    | none => parseV6? s

/-- The number of bits of an address. -/
def width : Address → Nat
  | .v4 _ => 32
  | .v6 _ _ => 128

/-- The text of an address. -/
def text : Address → String
  | .v4 a => a.text
  | .v6 a none => a.text
  | .v6 a (some zone) => a.text ++ "%" ++ String.ofList zone

/-- The address of the network of a given prefix length that an address lies in. A zone stays only
with an address that has no bit beyond the prefix. -/
def network (length : Nat) : Address → Address
  | .v4 a => .v4 (clearHost length a)
  | .v6 a zone =>
    if clearHost length a = a then .v6 a zone else .v6 (clearHost length a) none

/-- Taking the network twice is taking it once. -/
theorem network_network (length : Nat) (a : Address) :
    (a.network length).network length = a.network length := by
  cases a with
  | v4 a => simp [network, clearHost_clearHost]
  | v6 a zone =>
    by_cases h : clearHost length a = a
    · simp [network, h]
    · simp [network, h, clearHost_clearHost]

end Address

/-- Whether a text is a host address. Supports `is_ip_address`. -/
def isAddress (s : String) : Bool := (Address.parse? s.toList).isSome

end CaptureFilter.Net
