import CaptureFilter.Text.Blank
import CaptureFilter.Text.Case

/-!
# Capture interfaces

Loopback, tunnel and logging interfaces carry no VLAN tags. They are known by how their names begin.
Spec guidance: `SPEC_FULL.md` §E (`interface_supports_vlan`).
-/

namespace CaptureFilter.Interface

open Text

/-- The beginnings of the names of interfaces that carry no tags. Supports
`no_vlan_interface_prefixes`. -/
def defaultUntaggedPrefixes : List String :=
  ["lo", "enc", "gif", "gre", "tun", "ovpn", "ipsec", "pflog", "pfsync", "wg", "l2tp", "ppp"]

/-- Whether an interface carries tags: one without a name does, and any other unless its name
begins with one of the prefixes, case and blanks around the name aside. Supports
`interface_supports_vlan`. -/
def carriesTags (prefixes : List String) : Option String → Bool
  | none => true
  | some name =>
    name.isEmpty ||
      prefixes.all fun p ↦ !(lower p).toList.isPrefixOf (lower (trim name)).toList

end CaptureFilter.Interface
