import CaptureFilter.Net.Address
import CaptureFilter.Text.Numeral

/-!
# Subnets

A subnet is an address and a prefix length, printed as the address of its network and that length.
An IPv4 subnet may give its length as a mask: ones before zeros, or zeros before ones. Without a
length an address is a subnet of its own.
Spec guidance: `SPEC_FULL.md` §6 (`is_subnet`, `subnet_network`).
-/

namespace CaptureFilter.Net

open Text

/-- A network: its address, which has no bits beyond the prefix, and the prefix length. -/
structure Subnet where
  /-- The network's address. -/
  address : Address
  /-- The prefix length. -/
  length : Nat
  /-- The address is the network's. -/
  isNetwork : address.network length = address

namespace Subnet

/-- The network of a given prefix length that an address lies in. -/
def of (length : Nat) (a : Address) : Subnet where
  address := a.network length
  length := length
  isNetwork := a.network_network length

/-- The prefix length that a numeral gives, `width` at most. -/
def length? (width : Nat) (s : List Char) : Option Nat :=
  if isNumber s ∧ s.length ≤ Numeral.maxDigits ∧ Nat.ofDigitChars 10 s 0 ≤ width then
    some (Nat.ofDigitChars 10 s 0)
  else none

/-- The number of ones that a mask of ones before zeros begins with. -/
def onesOf? (mask : IPv4) : Option Nat :=
  (List.range 33).find? fun length ↦ clearHost length (BitVec.allOnes 32) == mask

/-- The prefix length that a mask gives; a mask of zeros before ones is taken inverted. -/
def maskLength? (s : List Char) : Option Nat := do
  let mask ← IPv4.parse? s
  onesOf? mask <|> onesOf? (~~~mask)

/-- The subnet of an IPv4 address and the text of its length or mask. -/
def v4? (address length : List Char) : Option Subnet := do
  let a ← IPv4.parse? address
  let n ← length? 32 length <|> maskLength? length
  return of n (.v4 a)

/-- The subnet of an IPv6 address and the text of its length. -/
def v6? (address length : List Char) : Option Subnet := do
  let a ← Address.parseV6? address
  let n ← length? 128 length
  return of n a

/-- The subnet that a text denotes. -/
def parse? (s : List Char) : Option Subnet :=
  match s.splitOn '/' with
  | [address] => (Address.parse? address).map fun a ↦ of a.width a
  | [address, length] => v4? address length <|> v6? address length
  | _ => none

/-- The text of a subnet. -/
def text (n : Subnet) : String := n.address.text ++ "/" ++ decimal n.length

end Subnet

/-- Whether a text is an address and a prefix length that fits its family, the address perhaps with
bits beyond the prefix. Supports `is_subnet`. -/
def isSubnet (s : String) : Except Numeral.Error Bool :=
  match s.toList.splitOn '/' with
  | [address, length] => do
    let digits := dropFinalLineFeed length
    if isNumber digits then
      if 128 < (← Numeral.read digits) then return false
      return (Address.parse? address).isSome && (Subnet.parse? s.toList).isSome
    else return false
  | _ => return false

/-- The network form of a subnet's text. Supports `subnet_network`. -/
def networkText? (s : String) : Option String := (Subnet.parse? s.toList).map Subnet.text

/-- The wording of the refusal of a text that is no subnet. -/
def notNetworkMessage (s : String) : String :=
  quoted s ++ " does not appear to be an IPv4 or IPv6 network"

end CaptureFilter.Net
